import AlertRelay.Proofs.Send.Origin

/-!
# What a Request Contains

The headers of a configuration stand in its request as one block: in their order, with their
names as they are spelled, and with their rendered values in UTF-8. Around this block a request
is **completed** by a field for its host and by one for the length of its content. The length has
two places, in front of the block if the content is empty and behind it otherwise, but no request
has it at both.

A request that is not built fails for its URL, for a name, or for a host, which is looked at in
this order. No value, no body and no method is ever refused.

## Main results

* `written_headers`: the block of the headers, and what completes it.
* `Config.request_contents`: **what a request contains**, and when there is none.
-/

namespace AlertRelay

open Http Text

/-! ### The fields that complete a request -/

/-- The field for the length of a content. -/
def lengthField (content : Octets) : Header :=
  ⟨"Content-Length", encode (Nat.repr content.length)⟩

/-- Fields that complete a request whose template has headers of some names: its host and the
length of its content in octets, each at most once, and neither where the template has it, in
whatever case. -/
structure Http.Request.IsCompletion (r : Request) (names : List String) (added : Headers) :
    Prop where
  kind : ∀ h ∈ added, h = ⟨"Host", encode r.url.hostPort⟩ ∨ h = lengthField r.content
  once : (added.map Header.name).Nodup
  absent : ∀ h ∈ added, ∀ name ∈ names, asciiLower name ≠ asciiLower h.name

/-- Only an empty content is announced in front. -/
theorem emptyLength_withLength (method : String) (content : Octets) (headers : Headers) :
    emptyLength method (withLength content headers) = [] ∨
      content = [] ∧ emptyLength method (withLength content headers) = [lengthField content] ∧
        headers.has "Content-Length" = false := by
  by_cases hfree : content ≠ [] ∧ ¬headers.has "Content-Length" = true
  · have hhas : Headers.has "Content-Length" (withLength content headers) = true := by
      rw [withLength, if_pos hfree, Headers.has, List.any_append]
      simp [Header.named]
    exact .inl (if_neg fun h => h.1 hhas)
  · rw [withLength, if_neg hfree, emptyLength]
    split
    · next h =>
        have hempty : content = [] := not_not.mp fun hne => hfree ⟨hne, h.1⟩
        refine .inr ⟨hempty, ?_, Bool.eq_false_iff.mpr h.1⟩
        rw [hempty]
        rfl
    · exact .inl rfl

/-- Only a content that is not empty is announced behind the fields that are given. -/
theorem withLength_cases (content : Octets) (headers : Headers) :
    withLength content headers = headers ∨
      content ≠ [] ∧ withLength content headers = headers ++ [lengthField content] ∧
        headers.has "Content-Length" = false := by
  rw [withLength]
  split
  · next h => exact .inr ⟨h.1, rfl, Bool.eq_false_iff.mpr h.2⟩
  · exact .inl rfl

/-- The length of a content is announced in front of the fields that are given or behind them,
once at most, and not where it is given. -/
theorem length_places (method : String) (content : Octets) (headers : Headers) :
    ∃ front back, emptyLength method (withLength content headers) = front ∧
      withLength content headers = headers ++ back ∧
      (front ++ back = [] ∨
        front ++ back = [lengthField content] ∧ headers.has "Content-Length" = false) := by
  rcases withLength_cases content headers with hback | ⟨hcontent, hback, hfree⟩
  · refine ⟨_, [], rfl, by rw [hback, List.append_nil], ?_⟩
    rw [List.append_nil]
    exact (emptyLength_withLength method content headers).imp_right And.right
  · refine ⟨[], [lengthField content], ?_, hback, .inr ⟨rfl, hfree⟩⟩
    exact (emptyLength_withLength method content headers).resolve_right fun h => hcontent h.1

/-- A header that a template does not have differs in name from all that it has. -/
theorem ne_of_not_has {name : String} {headers : Table String}
    (h : Headers.has name (headers.map fieldOf) = false) :
    ∀ other ∈ headers.map Prod.fst, asciiLower other ≠ asciiLower name := by
  intro other hmem hsame
  obtain ⟨given, hgiven, rfl⟩ := List.mem_map.mp hmem
  have hnamed := List.any_eq_false.mp h _ (List.mem_map_of_mem hgiven)
  exact hnamed (decide_eq_true hsame)

/-- A field for the host and one for the length complete a request together. -/
theorem isCompletion_append {r : Request} {names : List String} {host length : Headers}
    (hhost : host = [] ∨ host = [⟨"Host", encode r.url.hostPort⟩] ∧
      ∀ name ∈ names, asciiLower name ≠ asciiLower "Host")
    (hlength : length = [] ∨ length = [lengthField r.content] ∧
      ∀ name ∈ names, asciiLower name ≠ asciiLower "Content-Length") :
    r.IsCompletion names (host ++ length) := by
  rcases hhost with rfl | ⟨rfl, hhost⟩ <;> rcases hlength with rfl | ⟨rfl, hlength⟩
  · exact ⟨by simp, by simp, by simp⟩
  · exact ⟨by simp, by simp, by simpa [lengthField] using hlength⟩
  · exact ⟨by simp, by simp, by simpa using hhost⟩
  · refine ⟨by simp, by simp [lengthField], ?_⟩
    intro h hmem
    rcases List.mem_pair.mp hmem with rfl | rfl
    · exact hhost
    · exact hlength

/-- The block of the headers of a template, and what completes it. -/
theorem written_headers (method : String) (url : Url) (body : String) (headers : Table String) :
    ∃ front back,
      (written method url body headers).headers = front ++ headers.map fieldOf ++ back ∧
      (written method url body headers).IsCompletion (headers.map Prod.fst) (front ++ back) := by
  obtain ⟨front, back, hfront, hback, hlength⟩ :=
    length_places (upper method) (encode body) (headers.map fieldOf)
  have hhost : hostFields url (headers.map fieldOf) = [] ∨
      hostFields url (headers.map fieldOf) = [⟨"Host", encode url.hostPort⟩] ∧
        ∀ name ∈ headers.map Prod.fst, asciiLower name ≠ asciiLower "Host" :=
    (hostFields_eq url _).imp_right fun h => ⟨h.1, ne_of_not_has h.2⟩
  refine ⟨hostFields url (headers.map fieldOf) ++ front, back, ?_, ?_⟩
  · rw [written, hostFields_congr rfl rfl (has_host_withLength_eq _ headers), hfront, hback]
    simp only [List.append_assoc]
  · rw [List.append_assoc]
    exact isCompletion_append hhost (hlength.imp_right fun h => ⟨h.1, ne_of_not_has h.2⟩)

/-! ### Requests of a configuration -/

/-- The rendered URL is the text of the URL, rendered. -/
theorem Config.render_url (c : Config) (target : Target) :
    (c.render target).url = c.renderText target c.url := by
  rw [render_eq]

/-- The headers of a configuration keep their order and their names, and only their values are
rendered. -/
theorem Config.render_fields (c : Config) (target : Target) :
    (c.render target).headers.map fieldOf =
      c.headers.map fun h => ⟨h.1, encode (c.renderText target h.2)⟩ := by
  rw [render_eq]
  exact List.map_map

/-- A request that is built consists of what its configuration says. -/
theorem Config.contents_of_request {c : Config} {target : Target} {r : Request}
    (h : c.request target = .ok r) :
    r.method = upper c.requestMethod ∧ r.content = encode (c.renderText target c.body) ∧
      ∃ front back,
        r.headers = front ++
          c.headers.map (fun h => ⟨h.1, encode (c.renderText target h.2)⟩) ++ back ∧
        r.IsCompletion (c.headers.map Prod.fst) (front ++ back) := by
  obtain ⟨url, -, -, rfl⟩ := written_of_request h
  obtain ⟨front, back, hheaders, hcompletion⟩ :=
    written_headers c.requestMethod url (c.render target).body (c.render target).headers
  have hbody : (c.render target).body = c.renderText target c.body := by rw [render_eq]
  rw [c.render_fields target] at hheaders
  rw [c.render_names target] at hcompletion
  refine ⟨?_, ?_, front, back, hheaders, hcompletion⟩
  · rw [written]
  · rw [written, hbody]

/-- The first name outside ASCII is reported, whatever the host is. -/
theorem Config.request_of_nameFault {c : Config} {target : Target} {url : Url} {fault : NonAscii}
    (hread : Url.read (c.render target).url = .ok url)
    (h : nameFault? (c.headers.map Prod.fst) = some fault) :
    c.request target = .error (.notAscii fault) := by
  rw [← c.render_names target] at h
  exact Request.build_of_nameFault hread h

/-- What is wrong with a host that has to be written is reported. -/
theorem Config.request_of_hostFault {c : Config} {target : Target} {url : Url} {failure : Failure}
    (hread : Url.read (c.render target).url = .ok url)
    (hnames : ∀ h ∈ c.headers, isAscii h.1 = true) (hgiven : ¬c.GivesHost)
    (hfault : url.hostFault? = some failure) : c.request target = .error failure := by
  have hall : ∀ name ∈ c.headers.map Prod.fst, isAscii name = true :=
    List.forall_mem_map.mpr hnames
  rw [GivesHost, ← c.render_names target] at hgiven
  rw [← c.render_names target] at hall
  exact Request.build_of_hostFault hread hall hgiven hfault

/-- **What a request contains.** For every configuration and target:

* a request that is built has the URL that is rendered, the method of the configuration in upper
  case, the rendered body in UTF-8, and the headers of the configuration as one block, in order,
  with their names and their rendered values in UTF-8; what stands around the block completes it;
* a malformed URL is reported as such;
* where the URL is read and a name is not ASCII, the first such name is reported;
* where the URL is read, all names are ASCII, and a header for the host is given or the host can
  be written, a request is built;
* otherwise what is wrong with the host is reported. -/
theorem Config.request_contents (c : Config) (target : Target) :
    (∀ r, c.request target = .ok r →
        Url.read (c.renderText target c.url) = .ok r.url ∧
        r.method = upper (if c.method = "" then "GET" else c.method) ∧
        r.content = encode (c.renderText target c.body) ∧
        ∃ front back,
          r.headers = front ++
            c.headers.map (fun h => ⟨h.1, encode (c.renderText target h.2)⟩) ++ back ∧
          r.IsCompletion (c.headers.map Prod.fst) (front ++ back)) ∧
      (∀ fault, Url.read (c.renderText target c.url) = .error fault →
        c.request target = .error (.url fault)) ∧
      ∀ url, Url.read (c.renderText target c.url) = .ok url →
        (∀ fault, nameFault? (c.headers.map Prod.fst) = some fault →
          c.request target = .error (.notAscii fault)) ∧
        ((∀ h ∈ c.headers, isAscii h.1 = true) →
          (c.GivesHost ∨ url.HostWritable → ∃ r, c.request target = .ok r) ∧
          (¬c.GivesHost → ∀ failure, url.hostFault? = some failure →
            c.request target = .error failure)) := by
  rw [← c.render_url target]
  refine ⟨?built, fun fault => request_of_read_error, fun url hread => ⟨?name, fun hnames => ?host⟩⟩
  case built => exact fun r h => ⟨read_of_request h, contents_of_request h⟩
  case name => exact fun fault => request_of_nameFault hread
  case host =>
    constructor
    · exact fun hhost =>
        ⟨_, request_of_writable hread ((c.writable_iff url).mpr ⟨hnames, hhost⟩)⟩
    · exact fun hgiven failure => request_of_hostFault hread hnames hgiven

/-- Two headers whose names differ in case only both stay, and a length that is added counts the
octets of the body. -/
theorem Config.request_contents_alike_names :
    let c : Config :=
      { url := "http://h/[ENDPOINT_NAME]"
        method := "post"
        body := "[ENDPOINT_NAME]é"
        headers := [("X-A", "[ENDPOINT_NAME]"), ("x-a", "ü"), ("hOST", "")] }
    let target : Target := { endpoint := { name := "n" }, alert := {}, resolved := false }
    ∃ r front back, c.request target = .ok r ∧ r.method = "POST" ∧ r.content = encode "né" ∧
      r.headers =
        front ++ [⟨"X-A", encode "n"⟩, ⟨"x-a", encode "ü"⟩, ⟨"hOST", encode ""⟩] ++ back ∧
      r.IsCompletion ["X-A", "x-a", "hOST"] (front ++ back) := by
  intro c target
  have hread : (Url.read (c.renderText target c.url)).isOk = true := by decide +kernel
  have hnames : ∀ h ∈ c.headers, isAscii h.1 = true := by decide +kernel
  have hgives : c.GivesHost := ⟨"hOST", by decide, by decide +kernel⟩
  have hmethod : upper (if c.method = "" then "GET" else c.method) = "POST" := by decide +kernel
  have hbody : c.renderText target c.body = "né" := by decide +kernel
  have hvalues : c.headers.map (fun h => ⟨h.1, encode (c.renderText target h.2)⟩) =
      ([⟨"X-A", encode "n"⟩, ⟨"x-a", encode "ü"⟩, ⟨"hOST", encode ""⟩] : Headers) := by
    decide +kernel
  obtain ⟨hcontents, -, hbuilds⟩ := request_contents c target
  cases hurl : Url.read (c.renderText target c.url) with
  | error fault =>
      rw [hurl] at hread
      cases hread
  | ok url =>
      obtain ⟨r, hr⟩ := ((hbuilds url hurl).2 hnames).1 (.inl hgives)
      obtain ⟨-, hmethod', hcontent, front, back, hheaders, hcompletion⟩ := hcontents r hr
      rw [hmethod] at hmethod'
      rw [hbody] at hcontent
      rw [hvalues] at hheaders
      exact ⟨r, front, back, hr, hmethod', hcontent, hheaders, hcompletion⟩

/-- A request can fail although its URL is well formed and its names are ASCII: its host has an
encoded label that stands for nothing. -/
theorem Config.request_fails_at_encoded_host :
    let c : Config :=
      { url := "http://xn--/", body := "é", headers := [("X-A", "[ENDPOINT_NAME]")] }
    let target : Target := { endpoint := { name := "n" }, alert := {}, resolved := false }
    (Url.read (c.renderText target c.url)).isOk = true ∧
      (∀ h ∈ c.headers, isAscii h.1 = true) ∧
      c.request target = .error (.host .noContent) := by
  intro c target
  exact ⟨by decide +kernel, by decide +kernel, by decide +kernel⟩

end AlertRelay
