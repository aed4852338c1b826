import CheckpointRelay.Node.Api
import CheckpointRelay.Proofs.Result
import CheckpointRelay.Proofs.Text.Utf8

/-!
# Requests that can be sent

A request posts what it was made for (`Http.Request.make_body`), and there is one for every address with a host that has
a scheme of HTTP and can be written (`Http.Request.make_of_plain`). So every question can be put to a node that is
reached under a number on the machine itself (`Node.request_loopback`).
-/

namespace CheckpointRelay

/-- An address without name and password has no credentials. -/
theorem Url.credentials?_eq_none {url : Url} (hname : url.username = "") (hpassword : url.password = none) :
    url.credentials? = none := by
  have hempty : Utf8.decode (Percent.decode (Utf8.encode "")) = .ok "" := Utf8.decode_encode ""
  simp only [credentials?, hname, hpassword, hempty, Except.toOption, Option.bind_eq_bind, Option.bind_some,
    Option.bind_none, and_self, if_true]

namespace Http.Request

variable {address : String} {headers : List (String × String)} {body : Tree} {timeout : Nat} {request : Http.Request}

/-- What a request posts is what it was made for. -/
theorem make_body (h : make address headers body timeout = .ok request) : request.body = body := by
  unfold make at h
  obtain ⟨url, _, h⟩ := Result.bind_eq_ok.mp h
  obtain ⟨_, h⟩ := Result.unless_eq_ok.mp h
  obtain ⟨_, h⟩ := Result.unless_eq_ok.mp h
  dsimp only at h
  obtain ⟨_, h⟩ := Result.unless_eq_ok.mp h
  obtain ⟨_, h⟩ := Result.unless_eq_ok.mp h
  cases Result.pure_eq_ok.mp h
  rfl

/-- A value can be posted to an address without name and password that has a host and a scheme of HTTP and can be
written. -/
theorem make_of_plain {url : Url} (hparse : Url.parse address = .ok url) (hhost : url.hasHost = true)
    (hheaders : ∀ h ∈ headers, h.2.toList.all isHeaderChar = true) (hname : url.username = "")
    (hpassword : url.password = none) (hscheme : url.scheme = "http" ∨ url.scheme = "https")
    (hwritable : isWritable url = true) :
    make address headers body timeout = .ok { url, headers, body, timeout } := by
  unfold make
  refine Result.bind_eq_ok.mpr ⟨url, Result.mapError_eq_ok.mpr hparse, ?_⟩
  refine Result.unless_eq_ok.mpr ⟨by rw [hhost]; exact nofun, ?_⟩
  refine Result.unless_eq_ok.mpr ⟨by rw [List.all_eq_true.mpr hheaders]; exact nofun, ?_⟩
  rw [Url.credentials?_eq_none hname hpassword]
  refine Result.unless_eq_ok.mpr ⟨fun h => hscheme.elim h.1 h.2, ?_⟩
  refine Result.unless_eq_ok.mpr ⟨by rw [hwritable]; exact nofun, ?_⟩
  rfl

end Http.Request

namespace Node

/-- A node on the machine itself. -/
def loopback (key : Option String) (timeout : Nat) : Endpoint :=
  ⟨"http://[::1]:8090", key, timeout⟩

/-- The address of a method of such a node. -/
def loopbackUrl (method : String) : Url :=
  { scheme := "http", host := some (.ipv6 [0, 0, 0, 0, 0, 0, 0, 1]), port := some 8090
    path := .rooted ["wallet", method] }

/-- The methods of the interface. -/
def methods : List String :=
  ["triggerconstantcontract", "triggersmartcontract", "broadcasthex", "gettransactioninfobyid", "getcontract"]

/-- Every question is answered by one of them. -/
theorem method_mem (q : Query) : q.method ∈ methods := by
  cases q <;> simp [Query.method, methods]

set_option maxRecDepth 8000 in
/-- The text of the address of a method is read as that address. -/
theorem parse_loopback (key : Option String) (timeout : Nat) (q : Query) :
    Url.parse ((loopback key timeout).url q) = .ok (loopbackUrl q.method) := by
  have hread : ∀ method ∈ methods,
      (Url.parse ("http://[::1]:8090/wallet/" ++ method)).toOption = some (loopbackUrl method) := by decide
  exact Result.toOption_eq_some.mp (hread q.method (method_mem q))

/-- The address of a method can stand in a message. -/
theorem isWritable_loopbackUrl (q : Query) : Http.isWritable (loopbackUrl q.method) = true := by
  have hwritable : ∀ method ∈ methods, Http.isWritable (loopbackUrl method) = true := by decide +kernel
  exact hwritable q.method (method_mem q)

/-- Every question can be put to a node on the machine itself, with any key that can stand in a header. -/
theorem request_loopback {key : Option String} (hkey : ∀ k ∈ key, k.toList.all Http.isHeaderChar = true) (timeout : Nat)
    (q : Query) :
    (loopback key timeout).request q = .ok
      { url := loopbackUrl q.method, headers := (key.map (apiKeyHeader, ·)).toList, body := q.body, timeout } := by
  refine Http.Request.make_of_plain (parse_loopback key timeout q) rfl ?_ rfl rfl (Or.inl rfl)
    (isWritable_loopbackUrl q)
  intro h hh
  obtain ⟨k, hk, rfl⟩ := Option.map_eq_some_iff.mp (Option.mem_toList.mp hh)
  exact hkey k hk

end Node

end CheckpointRelay
