import AlertRelay.Proofs.Send.Writing
import AlertRelay.Proofs.Url.Origin

/-!
# Where Requests Go

A configuration whose URL begins with an origin that has no token in it sends all its requests to
this origin. No value can change that, whatever it holds: a replacement leaves what stands before
the mark behind the origin, and since no token has such a mark, neither the tokens of the
template nor those that an earlier value brings in can reach across it.

What a value can do is to make the URL unreadable. It cannot make a host unwritable: whether the
host can be written is decided by the origin.

## Main results

* `Token.begins_replaceAll`: replacements keep an origin.
* `Config.request_eq_of_begins`: a request that is built goes to the origin of its configuration.
* `Config.request_of_origin`: **values do not redirect a request**, and what they can do to it.
-/

namespace AlertRelay

open Http Text

/-! ### Replacement behind an origin -/

/-- No character of a token ends an authority. -/
theorem Token.endsAuthority_of_mem_spelling (t : Token) :
    ∀ c ∈ t.spelling.toList, Url.endsAuthority c = false := by
  have hall : t.spelling.toList.all (!Url.endsAuthority ·) = true := by
    cases t <;> decide
  simpa using hall

/-- **Replacements keep an origin.** -/
theorem Token.begins_replaceAll {o : Url.Origin}
    (htokens : ∀ t : Token, ¬t.spelling.toList <:+: o.text) (value : Token → String)
    (tokens : List Token) {s : String} (h : o.Begins s.toList) :
    o.Begins (replaceAll value tokens s).toList := by
  obtain ⟨mark, rest, hmark, hs⟩ := h
  have hnotMem : ∀ t : Token, mark ∉ t.spelling.toList := fun t hmem => by
    rw [t.endsAuthority_of_mem_spelling mark hmem] at hmark
    cases hmark
  have hrest : s.toList = o.text ++ mark :: (String.ofList rest).toList := by
    rw [hs, String.toList_ofList]
  exact ⟨mark, _, hmark, toList_replaceAll_append_cons htokens hnotMem value tokens hrest⟩

/-- Where a URL begins with an origin that no token stands in, every rendered URL does. -/
theorem Config.begins_render {c : Config} {o : Url.Origin} (hbegins : o.Begins c.url.toList)
    (htokens : ∀ t : Token, ¬t.spelling.toList <:+: o.text) (target : Target) :
    o.Begins (c.render target).url.toList := by
  rw [render_eq]
  exact Token.begins_replaceAll htokens _ _ hbegins

/-! ### The field for the host -/

/-- A configuration has a header for the host. -/
def Config.GivesHost (c : Config) : Prop :=
  ∃ name ∈ c.headers.map Prod.fst, asciiLower name = asciiLower "Host"

/-- The host of an origin can be written. -/
def Url.Origin.HostWritable (o : Origin) : Prop := ∃ base, o.base = .ok base ∧ base.HostWritable

/-- The headers of a request are some added ones and others, among which the fields for the host
are those of the template. -/
def Http.Request.Adds (r : Request) (added : Headers) (headers : Table String) : Prop :=
  ∃ rest, r.headers = added ++ rest ∧
    rest.filter (·.named "Host") = (headers.map fieldOf).filter (·.named "Host")

/-- The length of an empty body is no host field. -/
theorem filter_host_emptyLength (method : String) (headers : Headers) :
    (emptyLength method headers).filter (·.named "Host") = [] := by
  rw [emptyLength]
  split
  · simp [not_named_host_contentLength]
  · rfl

/-- A length that is added leaves the host fields as they are. -/
theorem filter_host_withLength (content : Octets) (headers : Headers) :
    (withLength content headers).filter (·.named "Host") =
      headers.filter (·.named "Host") := by
  rw [withLength]
  split
  · simp [not_named_host_contentLength]
  · rfl

/-- The field for the host that is added depends on the host and the port of the URL, and on
whether the template gives one. -/
theorem hostFields_congr {u v : Url} {headers headers' : Headers} (hname : u.hostName = v.hostName)
    (hport : u.hostPort = v.hostPort) (hhas : headers.has "Host" = headers'.has "Host") :
    hostFields u headers = hostFields v headers' := by
  rw [hostFields, hostFields, hname, hport, hhas]

/-- One host field is added, or none. -/
theorem hostFields_cases (url : Url) (headers : Headers) :
    hostFields url headers = [] ∨ ∃ value, hostFields url headers = [⟨"Host", value⟩] :=
  (hostFields_eq url headers).imp_right fun h => ⟨_, h.1⟩

/-! ### Requests -/

/-- The same configuration with other words for the states. -/
def Config.withWords (c : Config) (words : Remap) : Config := { c with placeholders := words }

/-- What a request needs to be written: names in ASCII, and a header for the host or a host that
can be written. -/
theorem Config.writable_iff (c : Config) (url : Url) :
    Writable url (c.headers.map Prod.fst) ↔
      (∀ h ∈ c.headers, isAscii h.1 = true) ∧ (c.GivesHost ∨ url.HostWritable) := by
  constructor
  · intro h
    refine ⟨List.forall_mem_map.mp h.ascii, ?_⟩
    by_cases hgives : c.GivesHost
    · exact .inl hgives
    · exact .inr (h.host fun name hmem heq => hgives ⟨name, hmem, heq⟩)
  · rintro ⟨hnames, h⟩
    refine ⟨List.forall_mem_map.mpr hnames, fun hnone => ?_⟩
    exact h.resolve_left fun ⟨name, hmem, heq⟩ => hnone name hmem heq

/-- A request that is written adds the field for the host of its URL. -/
theorem adds_written (method : String) (url : Url) (body : String) (headers : Table String) :
    (written method url body headers).Adds (hostFields url (headers.map fieldOf)) headers := by
  refine ⟨emptyLength (upper method) (withLength (encode body) (headers.map fieldOf)) ++
    withLength (encode body) (headers.map fieldOf), ?_, ?_⟩
  · rw [written, hostFields_congr rfl rfl (has_host_withLength_eq _ headers), List.append_assoc]
  · rw [List.filter_append, filter_host_emptyLength, filter_host_withLength, List.nil_append]

/-- **A request goes to the origin of its configuration**, if it is built, and the field for the
host that is added to it is the one of the origin. -/
theorem Config.request_eq_of_begins {c : Config} {o : Url.Origin}
    (hbegins : o.Begins c.url.toList) (htokens : ∀ t : Token, ¬t.spelling.toList <:+: o.text)
    {target : Target} {r : Request} (h : c.request target = .ok r) :
    ∃ base path query fragment, o.base = .ok base ∧ r.url = { base with path, query, fragment } ∧
      r.Adds (hostFields base (c.headers.map fieldOf)) (c.render target).headers := by
  obtain ⟨url, hread, -, rfl⟩ := written_of_request h
  obtain ⟨base, path, query, fragment, hbase, rfl⟩ :=
    Url.Origin.base_of_read (begins_render hbegins htokens target) hread
  have hhas : Headers.has "Host" (c.headers.map fieldOf) =
      Headers.has "Host" ((c.render target).headers.map fieldOf) :=
    Bool.eq_iff_iff.mpr (by rw [Headers.has, Headers.has, has_host_fields, has_host_fields,
      c.render_names target])
  have hfields : hostFields base (c.headers.map fieldOf) =
      hostFields { base with path, query, fragment } ((c.render target).headers.map fieldOf) :=
    hostFields_congr rfl rfl hhas
  refine ⟨base, path, query, fragment, hbase, rfl, ?_⟩
  rw [hfields]
  exact adds_written _ _ _ _

/-- Whether the host of a URL can be written is decided by the origin of the configuration. -/
theorem Config.hostWritable_iff_of_begins {c : Config} {o : Url.Origin}
    (hbegins : o.Begins c.url.toList) (htokens : ∀ t : Token, ¬t.spelling.toList <:+: o.text)
    {target : Target} {url : Url} (hread : Url.read (c.render target).url = .ok url) :
    url.HostWritable ↔ o.HostWritable := by
  obtain ⟨base, path, query, fragment, hbase, rfl⟩ :=
    Url.Origin.base_of_read (begins_render hbegins htokens target) hread
  constructor
  · exact fun h => ⟨base, hbase, h⟩
  · rintro ⟨same, hsame, h⟩
    rw [hbase] at hsame
    cases hsame
    exact h

/-- **Values do not redirect a request.** Let the URL of a configuration begin with an origin that
has no token. Whatever words for the states and whatever targets are taken:

* two requests that are built have the same scheme, user, host and port, and the field for the
  host that is added to them is the same;
* a malformed URL is reported as such;
* where all names of headers are ASCII, and a header for the host is given or the host of the
  origin can be written, every request whose URL is read is built;
* where a header for the host is not given and the host of the origin cannot be written, every
  request whose URL is read fails to be written. -/
theorem Config.request_of_origin {c : Config} {o : Url.Origin} (hbegins : o.Begins c.url.toList)
    (htokens : ∀ t : Token, ¬t.spelling.toList <:+: o.text) :
    (∀ words words' target target' r r',
      (c.withWords words).request target = .ok r →
      (c.withWords words').request target' = .ok r' →
        (r.url.scheme = r'.url.scheme ∧ r.url.userinfo = r'.url.userinfo ∧
          r.url.host = r'.url.host ∧ r.url.port = r'.url.port) ∧
        ∃ added, (added = [] ∨ ∃ value, added = [⟨"Host", value⟩]) ∧
          r.Adds added ((c.withWords words).render target).headers ∧
          r'.Adds added ((c.withWords words').render target').headers) ∧
      (∀ words target fault,
        Url.read ((c.withWords words).render target).url = .error fault →
          (c.withWords words).request target = .error (.url fault)) ∧
      ((∀ h ∈ c.headers, isAscii h.1 = true) → c.GivesHost ∨ o.HostWritable →
        ∀ words target url, Url.read ((c.withWords words).render target).url = .ok url →
          ∃ r, (c.withWords words).request target = .ok r) ∧
      (¬(c.GivesHost ∨ o.HostWritable) →
        ∀ words target url, Url.read ((c.withWords words).render target).url = .ok url →
          ∃ failure, (c.withWords words).request target = .error failure ∧
            failure.isUnwritable = true) := by
  refine ⟨?same, ?malformed, ?writable, ?unwritable⟩
  case same =>
    intro words words' target target' r r' hr hr'
    obtain ⟨base, _, _, _, hbase, hurl, hadds⟩ :=
      request_eq_of_begins (c := c.withWords words) hbegins htokens hr
    obtain ⟨base', _, _, _, hbase', hurl', hadds'⟩ :=
      request_eq_of_begins (c := c.withWords words') hbegins htokens hr'
    obtain rfl : base = base' := Except.ok.inj (hbase.symm.trans hbase')
    rw [hurl, hurl']
    exact ⟨⟨rfl, rfl, rfl, rfl⟩, _, hostFields_cases _ _, hadds, hadds'⟩
  case malformed => exact fun words target fault hread => request_of_read_error hread
  case writable =>
    intro hnames hhost words target url hread
    have hurl := hostWritable_iff_of_begins (c := c.withWords words) hbegins htokens hread
    obtain ⟨method, hbuilt⟩ := exists_written hread
      (((c.withWords words).writable_iff url).mpr ⟨hnames, hhost.imp_right hurl.mpr⟩)
    exact ⟨_, hbuilt⟩
  case unwritable =>
    intro hhost words target url hread
    have hurl := hostWritable_iff_of_begins (c := c.withWords words) hbegins htokens hread
    refine request_unwritable_iff.mpr ⟨url, hread, fun h => hhost ?_⟩
    exact (((c.withWords words).writable_iff url).mp h).2.imp_right hurl.mp

/-- A value with the marks of another origin, and with a token for more of them, stays behind the
origin. -/
theorem Config.request_of_origin_hostile :
    let c : Config := { url := "https://u@h:81/[ENDPOINT_NAME]" }
    let plain : Target := { endpoint := { name := "n" }, alert := {}, resolved := false }
    let hostile : Target :=
      { endpoint := { name := "../@e:80[ENDPOINT_GROUP]", group := "://" }
        alert := {}
        resolved := true }
    ∃ r r', (c.withWords []).request plain = .ok r ∧ (c.withWords []).request hostile = .ok r' ∧
      (r.url.scheme = r'.url.scheme ∧ r.url.userinfo = r'.url.userinfo ∧
        r.url.host = r'.url.host ∧ r.url.port = r'.url.port) := by
  intro c plain hostile
  have hbuilds : ∀ target ∈ [plain, hostile], ((c.withWords []).request target).isOk = true := by
    decide +kernel
  let o : Url.Origin := ⟨'h', "ttps".toList, "u@h:81".toList, rfl, by decide, by decide⟩
  have hbegins : o.Begins c.url.toList := ⟨'/', "[ENDPOINT_NAME]".toList, rfl, by decide⟩
  have htokens : ∀ t : Token, ¬t.spelling.toList <:+: o.text := by
    intro t
    cases t <;> decide
  cases hr : (c.withWords []).request plain with
  | error failure =>
      have hplain := hbuilds plain (by simp)
      rw [hr] at hplain
      cases hplain
  | ok r =>
      cases hr' : (c.withWords []).request hostile with
      | error failure =>
          have hhostile := hbuilds hostile (by simp)
          rw [hr'] at hhostile
          cases hhostile
      | ok r' =>
          obtain ⟨hsame, -⟩ := request_of_origin hbegins htokens
          exact ⟨r, r', rfl, rfl, (hsame [] [] plain hostile r r' hr hr').1⟩

/-- A host with an encoded label that stands for nothing is no malformed URL, and yet no request
is built. -/
theorem Config.request_fails_at_undecodable_host :
    let c : Config := { url := "http://xn--/" }
    let target : Target := { endpoint := { name := "n" }, alert := {}, resolved := false }
    ∃ o : Url.Origin, o.Begins c.url.toList ∧ (∀ t : Token, ¬t.spelling.toList <:+: o.text) ∧
      (Url.read ((c.withWords []).render target).url).isOk = true ∧
      (c.withWords []).request target = .error (.host .noContent) := by
  intro c target
  let o : Url.Origin := ⟨'h', "ttp".toList, "xn--".toList, rfl, by decide, by decide⟩
  refine ⟨o, ⟨'/', [], rfl, by decide⟩, ?_, by decide +kernel, by decide +kernel⟩
  intro t
  cases t <;> decide

end AlertRelay
