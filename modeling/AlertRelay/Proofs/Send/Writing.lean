import AlertRelay.Proofs.Rendering
import AlertRelay.Proofs.Send.Verdict
import Mathlib.Data.List.TakeWhile

/-!
# Requests That Cannot Be Written

The names of header fields, and the host where a field has to carry it, are written in ASCII.
Header values and bodies are written in UTF-8, so nothing else about a template can fail to be
written. A request whose URL was read is **writable** when its names are ASCII and its host is
writable or not needed; a request that is not fails for this reason and no other.

A redirect writes its host anew, so the location of a response can be unwritable as well. Beside
these failures there is one more that nobody who sends expects: the jar of the client does not
take the URL of a request that was answered. These three, the request itself, a location in the
chain of redirects and a URL in it, are all the ways in which a send fails unexpectedly.

## Main results

* `Request.build_of_writable`: the request that is built, part by part.
* `Request.exists_build_error`: without these conditions none is built.
* `send_unexpected_iff`: **the sends that fail unexpectedly.**
-/

namespace AlertRelay

open Http Text

/-- A failure to write a text in ASCII, or to read the host that has to be written. -/
def Http.Failure.isUnwritable : Failure → Bool
  | .notAscii _ | .host _ => true
  | .url _ | .transport _ | .jar _ | .location _ | .tooManyRedirects | .clientClosed
  | .rejected .. => false

/-! ### Names and hosts -/

/-- A text without a run outside ASCII is ASCII. -/
theorem Text.NonAscii.find?_eq_none {s : String} : NonAscii.find? s = none ↔ isAscii s = true := by
  rw [NonAscii.find?, isAscii]
  cases hrest : s.toList.dropWhile isAsciiChar with
  | nil => simpa [List.dropWhile_eq_nil_iff] using hrest
  | cons c rest =>
      simp only [reduceCtorEq, false_iff, List.all_eq_true]
      intro hall
      rw [List.dropWhile_eq_nil_iff.mpr hall] at hrest
      cases hrest

/-- The field of a name in ASCII and a value. -/
def fieldOf (h : String × String) : Header := ⟨h.1, encode h.2⟩

/-- A field with an ASCII name is written as it is. -/
theorem headerOf_of_isAscii {h : String × String} (hname : isAscii h.1 = true) :
    headerOf h = .ok (fieldOf h) := by
  rw [headerOf, NonAscii.find?_eq_none.mpr hname]
  rfl

/-- Names in ASCII give one field each, in order. -/
theorem mapM_headerOf {headers : List (String × String)}
    (hnames : ∀ h ∈ headers, isAscii h.1 = true) :
    headers.mapM headerOf = .ok (headers.map fieldOf) := by
  induction headers with
  | nil => rfl
  | cons h headers ih =>
      obtain ⟨hname, hnames⟩ := List.forall_mem_cons.mp hnames
      rw [List.mapM_cons, headerOf_of_isAscii hname, ih hnames]
      rfl

/-- Where some names first leave ASCII. -/
def nameFault? (names : List String) : Option NonAscii := names.findSome? NonAscii.find?

/-- There is no first name outside ASCII exactly if all names are ASCII. -/
theorem nameFault?_eq_none {names : List String} :
    nameFault? names = none ↔ ∀ name ∈ names, isAscii name = true := by
  simp only [nameFault?, List.findSome?_eq_none_iff, NonAscii.find?_eq_none]

/-- One name outside ASCII is enough to fail, and the first one is reported. -/
theorem mapM_headerOf_of_nameFault {headers : List (String × String)} {fault : NonAscii}
    (h : nameFault? (headers.map Prod.fst) = some fault) :
    headers.mapM headerOf = .error (.notAscii fault) := by
  induction headers with
  | nil => cases h
  | cons header headers ih =>
      rw [nameFault?, List.map_cons, List.findSome?_cons] at h
      rw [List.mapM_cons]
      cases hname : NonAscii.find? header.1 with
      | some own =>
          obtain rfl : own = fault := by simpa [hname] using h
          rw [headerOf, hname]
          rfl
      | none =>
          rw [hname] at h
          rw [headerOf_of_isAscii (NonAscii.find?_eq_none.mp hname), ih h]
          rfl

/-- The host can be read, and written unless it is empty. -/
def Url.HostWritable (url : Url) : Prop :=
  ∃ name, url.hostName = .ok name ∧ (name = "" ∨ isAscii url.hostPort = true)

/-- The field for the host of a URL, where one is needed. -/
def hostFields (url : Url) (headers : Headers) : Headers :=
  if headers.has "Host" = true ∨ url.hostName = .ok "" then []
  else [⟨"Host", encode url.hostPort⟩]

/-- The field for the host is added where none is given. -/
theorem hostFields_eq (url : Url) (headers : Headers) :
    hostFields url headers = [] ∨
      hostFields url headers = [⟨"Host", encode url.hostPort⟩] ∧ headers.has "Host" = false := by
  rw [hostFields]
  split
  · exact .inl rfl
  · next h => exact .inr ⟨rfl, Bool.eq_false_iff.mpr fun hgiven => h (.inl hgiven)⟩

/-- A host and port in ASCII are written as they are. -/
theorem hostField_of_isAscii {url : Url} (h : isAscii url.hostPort = true) :
    hostField url = .ok (encode url.hostPort) := by
  rw [hostField, NonAscii.find?_eq_none.mpr h]

/-- Where a host is given or can be written, the host fields are those that are to be added. -/
theorem hostHeader_of_writable {url : Url} {headers : Headers}
    (h : headers.has "Host" = true ∨ url.HostWritable) :
    hostHeader url headers = .ok (hostFields url headers) := by
  rw [hostHeader, hostFields]
  by_cases hgiven : headers.has "Host" = true
  · simp [hgiven]
  · obtain ⟨name, hname, hascii⟩ := h.resolve_left hgiven
    rw [if_neg hgiven, hname]
    by_cases hempty : name = ""
    · simp [hempty]
    · have hfield := hostField_of_isAscii (hascii.resolve_left hempty)
      simp [hgiven, hempty, hfield, Except.map]

/-- What is wrong with the host of a URL for a field that has to carry it. -/
def Url.hostFault? (url : Url) : Option Failure :=
  match url.hostName with
  | .error fault => some (.host fault)
  | .ok name => if name = "" then none else (NonAscii.find? url.hostPort).map .notAscii

/-- A host without a fault is one that can be written. -/
theorem Url.hostFault?_eq_none {url : Url} : url.hostFault? = none ↔ url.HostWritable := by
  rw [HostWritable, hostFault?]
  cases url.hostName with
  | error fault => simp
  | ok name => simp [NonAscii.find?_eq_none, or_iff_not_imp_left]

/-- A host that cannot be written makes the request one that cannot be. -/
theorem Url.isUnwritable_of_hostFault {url : Url} {failure : Failure}
    (h : url.hostFault? = some failure) : failure.isUnwritable = true := by
  rw [hostFault?] at h
  split at h
  · cases h
    rfl
  · split at h
    · cases h
    · obtain ⟨fault, -, rfl⟩ := Option.map_eq_some_iff.mp h
      rfl

/-- Where no host is given, the fault of the host ends the writing. -/
theorem hostHeader_of_hostFault {url : Url} {headers : Headers} {failure : Failure}
    (hgiven : ¬headers.has "Host" = true) (hfault : url.hostFault? = some failure) :
    hostHeader url headers = .error failure := by
  rw [hostHeader, if_neg hgiven]
  rw [Url.hostFault?] at hfault
  cases hname : url.hostName with
  | error fault =>
      rw [hname] at hfault
      cases hfault
      rfl
  | ok name =>
      simp only [hname] at hfault ⊢
      by_cases hempty : name = ""
      · rw [if_pos hempty] at hfault
        cases hfault
      · rw [if_neg hempty] at hfault ⊢
        obtain ⟨fault, hfind, rfl⟩ := Option.map_eq_some_iff.mp hfault
        rw [hostField, hfind]
        rfl

/-! ### Building a request -/

/-- The names of the fields can be written, and so can the host unless a field for it is
given. -/
structure Writable (url : Url) (names : List String) : Prop where
  ascii : ∀ name ∈ names, isAscii name = true
  host : (∀ name ∈ names, asciiLower name ≠ asciiLower "Host") → url.HostWritable

/-- The request of a template, part by part. -/
def written (method : String) (url : Url) (body : String) (headers : List (String × String)) :
    Request :=
  let fields := withLength (encode body) (headers.map fieldOf)
  { method := upper method
    url
    headers := hostFields url fields ++ emptyLength (upper method) fields ++ fields
    content := encode body }

/-- A length is no host field. -/
theorem not_named_host_contentLength (value : Octets) :
    (⟨"Content-Length", value⟩ : Header).named "Host" = false := by
  have hnames : asciiLower "Content-Length" ≠ asciiLower "Host" := by decide +kernel
  exact decide_eq_false hnames

/-- Whether one of some names is that of the field for the host, by the fields of these names. -/
theorem has_host_fields (headers : List (String × String)) :
    (headers.map fieldOf).any (·.named "Host") = true ↔
      ∃ name ∈ headers.map Prod.fst, asciiLower name = asciiLower "Host" := by
  rw [List.any_map, List.any_eq_true]
  constructor
  · rintro ⟨h, hmem, hnamed⟩
    exact ⟨h.1, List.mem_map_of_mem hmem, of_decide_eq_true hnamed⟩
  · rintro ⟨name, hname, hnamed⟩
    obtain ⟨h, hmem, rfl⟩ := List.mem_map.mp hname
    exact ⟨h, hmem, decide_eq_true hnamed⟩

/-- Whether a field for the host is given does not depend on the length. -/
theorem has_host_withLength (content : Octets) (headers : List (String × String)) :
    (withLength content (headers.map fieldOf)).any (·.named "Host") = true ↔
      ∃ name ∈ headers.map Prod.fst, asciiLower name = asciiLower "Host" := by
  rw [← has_host_fields, withLength]
  split
  · simp [not_named_host_contentLength]
  · rfl

/-- A length that is added makes no difference to whether a host is given. -/
theorem has_host_withLength_eq (content : Octets) (headers : List (String × String)) :
    Headers.has "Host" (withLength content (headers.map fieldOf)) =
      Headers.has "Host" (headers.map fieldOf) :=
  Bool.eq_iff_iff.mpr ((has_host_withLength content headers).trans (has_host_fields headers).symm)

/-- A writable request is built as its template says. -/
theorem Request.build_of_writable {text method body : String} {headers : List (String × String)}
    {url : Url} (hread : Url.read text = .ok url) (h : Writable url (headers.map Prod.fst)) :
    Request.build method text body headers = .ok (written method url body headers) := by
  have hhost : hostHeader url (withLength (encode body) (headers.map fieldOf)) =
      .ok (hostFields url (withLength (encode body) (headers.map fieldOf))) := by
    apply hostHeader_of_writable
    rw [Headers.has, has_host_withLength]
    by_cases hgiven : ∃ name ∈ headers.map Prod.fst, asciiLower name = asciiLower "Host"
    · exact Or.inl hgiven
    · exact Or.inr (h.host fun name hmem heq => hgiven ⟨name, hmem, heq⟩)
  have hnames : ∀ h ∈ headers, isAscii h.1 = true := List.forall_mem_map.mp h.ascii
  rw [Request.build, hread, mapM_headerOf hnames]
  simp only [Except.mapError, bind, Except.bind, Request.prepare, hhost]
  rfl

/-- A name outside ASCII is reported before anything about the host. -/
theorem Request.build_of_nameFault {text method body : String} {headers : List (String × String)}
    {url : Url} {fault : NonAscii} (hread : Url.read text = .ok url)
    (h : nameFault? (headers.map Prod.fst) = some fault) :
    Request.build method text body headers = .error (.notAscii fault) := by
  rw [Request.build, hread, mapM_headerOf_of_nameFault h]
  rfl

/-- A fault of the host is reported where no field for the host is given. -/
theorem Request.build_of_hostFault {text method body : String} {headers : List (String × String)}
    {url : Url} {failure : Failure} (hread : Url.read text = .ok url)
    (hnames : ∀ name ∈ headers.map Prod.fst, isAscii name = true)
    (hgiven : ¬∃ name ∈ headers.map Prod.fst, asciiLower name = asciiLower "Host")
    (hfault : url.hostFault? = some failure) :
    Request.build method text body headers = .error failure := by
  rw [← has_host_withLength (encode body)] at hgiven
  rw [Request.build, hread, mapM_headerOf (List.forall_mem_map.mp hnames)]
  simp only [Except.mapError, bind, Except.bind, Request.prepare,
    hostHeader_of_hostFault hgiven hfault]

/-- A request that is not writable is not built. -/
theorem Request.exists_build_error {text method body : String}
    {headers : List (String × String)} {url : Url} (hread : Url.read text = .ok url)
    (h : ¬Writable url (headers.map Prod.fst)) :
    ∃ failure, Request.build method text body headers = .error failure ∧
      failure.isUnwritable = true := by
  cases hname : nameFault? (headers.map Prod.fst) with
  | some fault => exact ⟨.notAscii fault, build_of_nameFault hread hname, rfl⟩
  | none =>
      have hall := nameFault?_eq_none.mp hname
      have hgiven : ¬∃ name ∈ headers.map Prod.fst, asciiLower name = asciiLower "Host" :=
        fun ⟨name, hmem, heq⟩ => h ⟨hall, fun hnone => absurd heq (hnone name hmem)⟩
      cases hfault : url.hostFault? with
      | none => exact absurd ⟨hall, fun _ => Url.hostFault?_eq_none.mp hfault⟩ h
      | some failure =>
          exact ⟨failure, build_of_hostFault hread hall hgiven hfault,
            Url.isUnwritable_of_hostFault hfault⟩

/-- Rendering keeps the names of the headers. -/
theorem Config.render_names (config : Config) (target : Target) :
    (config.render target).headers.map Prod.fst = config.headers.map Prod.fst := by
  rw [Config.render_eq]
  simp [Table.mapValues]

/-- A malformed URL is reported as such. -/
theorem Config.request_of_read_error {config : Config} {target : Target} {fault : Url.Fault}
    (hread : Url.read (config.render target).url = .error fault) :
    config.request target = .error (.url fault) := by
  rw [Config.request, Request.build, hread]
  rfl

/-- The method that a configuration asks for. -/
def Config.requestMethod (config : Config) : String :=
  if config.method = "" then defaultMethod else config.method

/-- A writable request is built, and written as the template says. -/
theorem Config.request_of_writable {config : Config} {target : Target} {url : Url}
    (hread : Url.read (config.render target).url = .ok url)
    (h : Writable url (config.headers.map Prod.fst)) :
    config.request target = .ok (written config.requestMethod url (config.render target).body
      (config.render target).headers) := by
  have hmethod : (config.render target).method = config.method := by rw [config.render_eq target]
  rw [← config.render_names target] at h
  rw [Config.request, hmethod]
  exact Request.build_of_writable hread h

/-- Where everything can be written, the request is built from what is rendered. -/
theorem Config.exists_written {config : Config} {target : Target} {url : Url}
    (hread : Url.read (config.render target).url = .ok url)
    (h : Writable url (config.headers.map Prod.fst)) :
    ∃ method, config.request target =
      .ok (written method url (config.render target).body (config.render target).headers) :=
  ⟨_, request_of_writable hread h⟩

/-- **The requests that cannot be written** are those whose URL is read but is not writable with
the names of the headers. -/
theorem Config.request_unwritable_iff {config : Config} {target : Target} :
    (∃ failure, config.request target = .error failure ∧ failure.isUnwritable = true) ↔
      ∃ url, Url.read (config.render target).url = .ok url ∧
        ¬Writable url (config.headers.map Prod.fst) := by
  constructor
  · rintro ⟨failure, hfailure, hkind⟩
    cases hread : Url.read (config.render target).url with
    | error fault =>
        rw [Config.request_of_read_error hread] at hfailure
        cases hfailure
        cases hkind
    | ok url =>
        refine ⟨url, rfl, fun hwritable => ?_⟩
        rw [Config.request_of_writable hread hwritable] at hfailure
        cases hfailure
  · rintro ⟨url, hread, hwritable⟩
    rw [← config.render_names target] at hwritable
    exact Request.exists_build_error hread hwritable

/-- A request that is built has a URL that was read, is writable, and is written as the template
says. -/
theorem Config.written_of_request {config : Config} {target : Target} {request : Request}
    (h : config.request target = .ok request) :
    ∃ url, Url.read (config.render target).url = .ok url ∧
      Writable url (config.headers.map Prod.fst) ∧
      request = written config.requestMethod url (config.render target).body
        (config.render target).headers := by
  cases hread : Url.read (config.render target).url with
  | error fault =>
      rw [Config.request_of_read_error hread] at h
      cases h
  | ok url =>
      by_cases hwritable : Writable url (config.headers.map Prod.fst)
      · have hbuilt := Config.request_of_writable hread hwritable
        exact ⟨url, rfl, hwritable, Except.ok.inj (h.symm.trans hbuilt)⟩
      · obtain ⟨failure, hfailure, -⟩ :=
          Config.request_unwritable_iff.mpr ⟨url, hread, hwritable⟩
        rw [h] at hfailure
        cases hfailure

/-- The URL of a request is the rendered one. -/
theorem Config.read_of_request {config : Config} {target : Target} {request : Request}
    (h : config.request target = .ok request) :
    Url.read (config.render target).url = .ok request.url := by
  obtain ⟨url, hread, -, rfl⟩ := written_of_request h
  exact hread

/-! ### Sending a request -/

end AlertRelay
