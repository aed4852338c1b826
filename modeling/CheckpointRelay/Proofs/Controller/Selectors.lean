import CheckpointRelay.Controller.Call
import CheckpointRelay.Proofs.Abi.Reading

/-!
# The selectors of the functions that are called

The four octets in front of a call, computed once for every function, so that statements about calls need no hash.
-/

namespace CheckpointRelay.Abi

/-- The declarations of the functions that are called, with their selectors. -/
def selectorTable : List (String × Bytes) :=
  [(Signature.multicall, [0xac, 0x96, 0x50, 0xd8]), (Signature.isEventChainTip, [0x99, 0x27, 0x5a, 0x9b]),
    (Signature.pullFromReceivers, [0xf5, 0x29, 0x90, 0x8b]), (Signature.rebalanceUsdt, [0xb3, 0xf8, 0xf5, 0x73]),
    (Signature.usdt, [0x2f, 0x48, 0xab, 0x7d]), (Signature.balanceOf, [0x70, 0xa0, 0x82, 0x31]),
    (Signature.lpExchangeRateFor, [0x5d, 0x6a, 0xca, 0xc2]), (Signature.payloadFor, [0xfd, 0x8c, 0x72, 0x2d]),
    (Signature.feeBps, [0x24, 0xa9, 0xd8, 0x53]), (Signature.bpsDenominator, [0xe1, 0xa4, 0x52, 0x18])]

/-- The selector that the table has for a declaration. -/
def selectorOctets (signature : String) : Bytes :=
  (selectorTable.lookup signature).getD []

set_option maxRecDepth 8000 in
/-- The table has the selectors of its declarations. -/
theorem bytes_selector_eq {signature : String} (h : signature ∈ selectorTable.map Prod.fst) :
    (selector signature).bytes = selectorOctets signature := by
  have hfits : ∀ s ∈ selectorTable.map Prod.fst, (Utf8.encode s).length < Keccak256.rate := by decide
  have hhash : ∀ s ∈ selectorTable.map Prod.fst,
      (Keccak256.Numeric.digest (Utf8.encode s)).take 4 = selectorOctets s := by decide
  exact (bytes_selector (hfits signature h)).trans (hhash signature h)

end CheckpointRelay.Abi
