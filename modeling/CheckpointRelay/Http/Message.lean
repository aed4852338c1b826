import CheckpointRelay.Http.Basic
import CheckpointRelay.Json.Printer
import CheckpointRelay.Text.Blank
import CheckpointRelay.Text.Utf8

/-!
# HTTP messages

A request and a response as the octets of HTTP/1.1. A connection serves one exchange: the request asks for it to be
closed, so what arrives until then is the response.
-/

namespace CheckpointRelay.Http

open Text

/-! ## Requests -/

/-- The octets of a request. -/
def Request.message (r : Request) : Bytes :=
  let body := Utf8.encode (Json.render r.body)
  let lines :=
    [s!"POST {r.url.resourceText} HTTP/1.1", s!"host: {r.url.placeText}", "accept: */*",
      "content-type: application/json"] ++
    r.headers.map (fun h => s!"{h.1}: {h.2}") ++ [s!"content-length: {body.length}", "connection: close", "", ""]
  Utf8.encode ("\r\n".intercalate lines) ++ body

/-! ## Responses -/

/-- What stands before and after the first line end. -/
def splitLine : Bytes → Option (Bytes × Bytes)
  | [] => none
  | 13 :: 10 :: rest => some ([], rest)
  | octet :: rest => (splitLine rest).map fun (line, later) => (octet :: line, later)

/-- What stands behind a line is shorter than the text: the line's end is taken away. -/
theorem length_splitLine {octets line rest : Bytes} (h : splitLine octets = some (line, rest)) :
    rest.length < octets.length := by
  induction octets using splitLine.induct generalizing line with
  | case1 => simp [splitLine] at h
  | case2 later => simp [splitLine] at h; grind
  | case3 octet later hn ih =>
    rw [splitLine.eq_3 _ _ hn] at h
    cases hs : splitLine later with
    | none => simp [hs] at h
    | some p =>
      obtain ⟨l, r⟩ := p
      simp only [hs, Option.map_some, Option.some.injEq, Prod.mk.injEq] at h
      obtain ⟨_, rfl⟩ := h
      have := ih hs
      simp only [List.length_cons]
      omega

/-- Lines up to the first empty one, and what stands after it. -/
def headerLines (octets : Bytes) : Option (List Bytes × Bytes) :=
  match h : splitLine octets with
  | none => none
  | some ([], rest) => some ([], rest)
  | some (line, rest) =>
    have := length_splitLine h
    (headerLines rest).map fun (lines, body) => (line :: lines, body)
termination_by octets.length

/-- The name, in lower case, and the value of a header. -/
def headerOf (line : Bytes) : List Char × List Char :=
  let cs := (Utf8.lossyChars line).map lower
  (cs.takeWhile (· ≠ ':'), trimChars ((cs.dropWhile (· ≠ ':')).drop 1))

/-- The octets of a body in chunks, each with its length in front, up to the empty chunk. -/
def joinChunks (octets : Bytes) : Option Bytes :=
  match h : splitLine octets with
  | none => none
  | some (line, rest) =>
    have := length_splitLine h
    let size := numberOf 16 ((Utf8.lossyChars line).takeWhile isHexDigit)
    if size = 0 then some []
    else if rest.length < size + 2 then none
    else (joinChunks (rest.drop (size + 2))).map (rest.take size ++ ·)
termination_by octets.length
decreasing_by simp only [List.length_drop]; omega

/-- The body of a response with these headers. -/
def bodyOf (headers : List (List Char × List Char)) (octets : Bytes) : Option Bytes :=
  if headers.lookup "transfer-encoding".toList = some "chunked".toList then joinChunks octets
  else match headers.lookup "content-length".toList with
  | some digits => if octets.length < numberOf 10 digits then none else some (octets.take (numberOf 10 digits))
  | none => some octets

/-- The status that the first line of a response names. -/
def statusOf? (line : Bytes) : Option Nat :=
  match after? [' '] (Utf8.lossyChars line) with
  | some rest => if (rest.take 3).length = 3 ∧ (rest.take 3).all isDigit then some (numberOf 10 (rest.take 3)) else none
  | none => none

/-- The response that octets write, if it is complete. -/
def Response.ofOctets? (octets : Bytes) : Option Response := do
  match ← headerLines octets with
  | (first :: headers, rest) => return ⟨← statusOf? first, ← bodyOf (headers.map headerOf) rest⟩
  | ([], _) => none

end CheckpointRelay.Http
