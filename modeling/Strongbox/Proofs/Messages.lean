/-
Messages say all that their requests do.

The paths of requests are made of encoded segments, so they hold no mark of a URL.  An address
without query and fragment goes on with such a path as a path, and the query of its URL is the one
that the request has.  A server gets the path in front of the first question mark of the target, and
the pairs by reading the form behind it; the body is its text, and two headers say what it is.

The text of the body is read back by a reader that rounds to the nearest number, and by the reader
of answers if all its numbers are integers.

* `parse_unmarked` — an address goes on as a path, unless it ends in padding;
* `parts_message` — the path and the query of the target;
* `values_content` — the headers of the body;
* `Wire.Message.Conveys`, `conveys_message` — what a message says;
* `sent_conveys` — an exchange sends a message that says what its request does, or none.
-/
import Strongbox.Proofs.Addresses
import Strongbox.Proofs.Credentials
import Strongbox.Proofs.Forms
import Strongbox.Proofs.Interruptions
import Strongbox.Proofs.JsonTexts
import Strongbox.Proofs.Segments

namespace Strongbox

/-! ### Paths of requests -/

namespace Endpoint

/-- The paths that requests are made for. -/
inductive Built : String → Prop
  | health : Built health
  | secret (mount key : String) : Built (secret mount key)
  | listing (mount path : String) : Built (listing mount path)
  | encrypt (mount key : String) : Built (encrypt mount key)
  | decrypt (mount key : String) : Built (decrypt mount key)

/-- A text of slashes and characters of encoded segments. -/
def IsPathText (s : String) : Prop := ∀ c ∈ s.toList, c = '/' ∨ isPathChar c = true

theorem isPathText_encodePath (name : String) : IsPathText (encodePath name) := fun _ =>
  isPathChar_of_mem_encodePath

theorem isPathText_word {s : String}
    (h : s.toList.all (fun c => c == '/' || isPathChar c) = true) : IsPathText s := by
  intro c hc
  simpa using List.all_eq_true.1 h c hc

theorem IsPathText.append {s t : String} (hs : IsPathText s) (ht : IsPathText t) :
    IsPathText (s ++ t) := by
  intro c hc
  rw [String.toList_append] at hc
  rcases List.mem_append.1 hc with hc | hc
  · exact hs c hc
  · exact ht c hc

theorem Built.isPathText {path : String} (h : Built path) : IsPathText path := by
  have hname := isPathText_encodePath
  have hword : IsPathText "/data/" ∧ IsPathText "/metadata/" ∧ IsPathText "/encrypt/" ∧
      IsPathText "/decrypt/" ∧ IsPathText "/" :=
    ⟨isPathText_word (by decide), isPathText_word (by decide), isPathText_word (by decide),
      isPathText_word (by decide), isPathText_word (by decide)⟩
  obtain ⟨hdata, hmetadata, hencrypt, hdecrypt, hslash⟩ := hword
  cases h with
  | health => exact isPathText_word (by decide)
  | secret mount key => exact ((hname mount).append hdata).append (hname key)
  | encrypt mount key => exact ((hname mount).append hencrypt).append (hname key)
  | decrypt mount key => exact ((hname mount).append hdecrypt).append (hname key)
  | listing mount path =>
    rw [Endpoint.listing]
    split
    · exact (hname mount).append hmetadata
    · exact (((hname mount).append hmetadata).append (hname path)).append hslash

end Endpoint

namespace Url

/-- A normalized path has no question mark: one that was there is encoded. -/
theorem mark_not_mem_normalize (special : Bool) (s : List Char) :
    '?' ∉ Path.normalize special s := by
  have hencoded : ∀ x, '?' ∉ Percent.encode isPathByte x := by
    intro x hx
    have hbyte : ∀ b : UInt8, isPathByte b = true → '?' ≠ Char.ofNat b.toNat :=
      Percent.forall_byte (P := fun b => isPathByte b = true → '?' ≠ Char.ofNat b.toNat)
        (by decide +kernel)
    rcases Percent.mem_encode hx with ⟨b, hb, heq⟩ | heq | hhex
    · exact hbyte b hb heq
    · exact absurd heq (by decide)
    · exact absurd hhex (by decide)
  intro h
  rw [Path.normalize] at h
  rcases List.mem_cons.1 h with h | h
  · exact absurd h (by decide)
  · rcases Text.mem_join h with h | ⟨p, hp, hmem⟩
    · exact absurd h (by decide)
    · rcases Path.mem_resolve hp with rfl | hp | hp
      · exact List.not_mem_nil hmem
      · exact List.not_mem_nil hp
      · obtain ⟨x, -, rfl⟩ := List.mem_map.1 hp
        exact hencoded x hmem

/-- An address without query and fragment and a text without marks behind it are a URL without
query, unless the address ends in padding. -/
theorem parse_unmarked {s t : List Char} {u : Url} (hu : parse s = .ok u) (hweb : u.IsWeb)
    (hquery : u.query = none) (hfragment : u.fragment = none)
    (ht : ∀ c ∈ t, isPadding c = false ∧ endsPath c = false) :
    (∃ v, parse (s ++ '/' :: t) = .ok v ∧ v.host.isSome = true ∧ v.query = none ∧ '?' ∉ v.path) ∨
    ((∀ v, parse (s ++ '/' :: t) ≠ .ok v) ∧ ∃ c ∈ last? s, isPadding c = true) := by
  have hpath : ∀ {scheme : List Char} (a : Authority) {c : Char} {p : List Char},
      isSpecial scheme = true → isSlash c = true → (∀ d ∈ p, endsPath d = false) →
      (withAuthority scheme a (c :: p)).query = none ∧
        '?' ∉ (withAuthority scheme a (c :: p)).path := by
    intro scheme a c p hs hc hp
    obtain ⟨hpath, hnone, -⟩ := path_withAuthority hs hc a hp
    rw [hpath]
    exact ⟨hnone, mark_not_mem_normalize true p⟩
  have hplain : ∀ c ∈ '/' :: t, endsPath c = false :=
    List.forall_mem_cons.2 ⟨by decide, fun c hc => (ht c hc).2⟩
  cases extended hu hweb (cleanEnd_eq_self fun c hc => (ht c hc).1) with
  | bare hs _ _ hv =>
    exact .inl ⟨_, hv, rfl, hpath _ hs rfl fun c hc => (ht c hc).2⟩
  | refused hlast hc hv => exact .inr ⟨hv, _, hlast, hc⟩
  | @behind scheme a c y w hs hc hw _ _ hu' hv =>
    -- what stands behind the authority of the address has no mark, so it is a path
    have hmark : ∀ d ∈ c :: y, endsPath d = false := by
      by_contra hmark
      obtain ⟨p, m, q, hp, hfront, hm⟩ := Text.exists_first hmark
      have hparts := (withAuthority_of_mark scheme a hfront hm q).2
      rw [← hp, ← hu'] at hparts
      exact hparts.elim (fun hne => hne hquery) fun hne => hne hfragment
    have hslash : isSlash c = true := by
      have hends := hmark c List.mem_cons_self
      simp only [endsPath, Bool.or_eq_false_iff] at hends
      simpa [endsAuthority, isSlash, hends.1, hends.2] using hc
    have hpadding : ∀ d ∈ w, endsPath d = false := fun d hd =>
      forall_isPadding (P := fun d => endsPath d = false) (by decide) (hw d hd)
    refine .inl ⟨_, hv, rfl, hpath _ hs hslash fun d hd => ?_⟩
    rcases List.mem_append.1 hd with hd | hd
    · exact hmark d (List.mem_cons_of_mem c hd)
    · rcases List.mem_append.1 hd with hd | hd
      · exact hpadding d hd
      · exact hplain d hd

end Url

/-! ### Messages -/

namespace Wire.Message

/-- The path of the target: what stands in front of its first question mark. -/
def path (m : Message) : List Char := m.target.toList.takeWhile (· != '?')

/-- The query of the target: what stands behind its first question mark, if there is one. -/
def query? (m : Message) : Option (List Char) :=
  match m.target.toList.dropWhile (· != '?') with
  | [] => none
  | _ :: form => some form

/-- The bytes of the body. -/
def content (m : Message) : Option (List UInt8) := m.body.map fun v => Utf8.bytes v.textOf

/-- Does a message to a path say what a request does?  The query is its pairs, behind which a
listing says that it is one, and the body is there if the request has one. -/
structure Conveys (m : Message) (path : List Char) (q : Request) : Prop where
  method : m.method = if q.operation = .write then "POST" else "GET"
  path : m.path = path
  noQuery : m.query? = none ↔ q.query = [] ∧ q.operation ≠ .list
  query : ∀ form ∈ m.query?, Form.decode? form =
    some (q.query ++ if q.operation = .list then [("list", "true")] else [])
  noBody : q.body = none →
    m.content = none ∧ m.values "content-type" = [] ∧ m.values "content-length" = []
  body : ∀ v ∈ q.body, ∃ bytes, m.content = some bytes ∧
    m.values "content-type" = ["application/json"] ∧
    m.values "content-length" = [Numeral.decimal bytes.length] ∧
    (∀ depth, v.nesting < depth → Json.readNearest depth bytes = .ok v) ∧
    (v.nesting < Json.depthLimit → v.Proper (fun _ => False) → Json.readBytes bytes = .ok v)

end Wire.Message

namespace Transport

variable {t : Transport} {q : Request} {v : Url}

/-- The pairs that are sent. -/
theorem pairs_eq (q : Request) :
    pairs q = q.query ++ if q.operation = .list then [("list", "true")] else [] := by
  rw [pairs]
  split
  · rfl
  · exact (List.append_nil _).symm

theorem query_withPairs (hquery : v.query = none) (ps : List (String × String)) :
    (v.withPairs ps).query = if ps = [] then none else some (Form.encode ps) := by
  rw [Url.withPairs]
  cases ps with
  | nil => exact hquery
  | cons p ps =>
    rw [if_neg (by simp), if_neg (List.cons_ne_nil p ps), hquery]

/-- The path and the query of a message are those of its URL. -/
theorem parts_message (t : Transport) (q : Request) {u : Url} (hmark : '?' ∉ u.path) (id : String)
    (credential : String × String) : (t.message q u id credential).path = u.path ∧
      (t.message q u id credential).query? = u.query := by
  obtain ⟨htake, hdrop⟩ := span_target hmark
  rw [Wire.Message.path, Wire.Message.query?, message, String.toList_ofList, htake, hdrop]
  refine ⟨rfl, ?_⟩
  cases u.query <;> rfl

/-- The names of the headers that describe a body. -/
def contentNames : List String := ["content-type", "content-length"]

/-- The headers of such a name are those that describe the body. -/
theorem values_content {name : String} (hname : name ∈ contentNames)
    {credential : String × String} (hcredential : headerName credential.1 ∉ contentNames)
    (t : Transport) (q : Request) (u : Url) (id : String) (value : Option String)
    (hbody : ((bodyHeaders q.body).filter (·.1 == name)).map (·.2) = value.toList) :
    (t.message q u id credential).values name = value.toList := by
  have hfixed : [("x-request-id", id), ("accept", "application/json"),
      ("accept-encoding", "gzip,br"), ("user-agent", userAgent t.config),
      (headerName credential.1, credential.2)].filter (·.1 == name) = [] :=
    Wire.Header.filter_eq_nil hname (by simpa [contentNames] using hcredential)
  have hspace : (t.config.nameSpace.toList.map fun n => (headerName namespaceHeader, n)).filter
      (·.1 == name) = [] := by
    refine Wire.Header.filter_eq_nil hname fun h hh => ?_
    obtain ⟨n, -, rfl⟩ := List.mem_map.1 hh
    exact (by decide : headerName namespaceHeader ∉ contentNames)
  show ((Wire.Header.sort _).filter _).map _ = _
  rw [Wire.Header.filter_sort, List.filter_append, List.filter_append, hfixed, hspace,
    List.nil_append, List.nil_append, hbody]

/-- A credential does not stand in such a header. -/
theorem headerName_not_mem_contentNames {c : Credential} {supply : Supply}
    {credential : String × String} (h : (c.header supply).1 = .ok credential) :
    headerName credential.1 ∉ contentNames := by
  have hplain : headerName Credential.tokenHeader ∉ contentNames := by decide
  have hbearer : headerName Credential.bearerHeader ∉ contentNames := by decide
  cases c with
  | token token =>
    rw [← Except.ok.inj h]
    exact hplain
  | bearer token =>
    rw [← Except.ok.inj h]
    exact hbearer
  | source source =>
    cases source with
    | fixed token =>
      rw [← Except.ok.inj h]
      exact hplain
    | rotating tokens =>
      rw [Credential.header_rotating] at h
      cases hnext : supply.next.1 with
      | none =>
        rw [hnext] at h
        exact absurd h (by simp)
      | some token =>
        rw [hnext] at h
        rw [← Except.ok.inj h]
        exact hplain

/-- A message for a URL that has no query of its own conveys its request. -/
theorem conveys_message (hquery : v.query = none) (hmark : '?' ∉ v.path)
    (hproper : ∀ b ∈ q.body, b.Proper Binary64.IsCanonical) {credential : String × String}
    (hcredential : headerName credential.1 ∉ contentNames) (t : Transport) (id : String) :
    (t.message q (v.withPairs (pairs q)) id credential).Conveys v.path q := by
  obtain ⟨hpath, hform⟩ := parts_message t q (u := v.withPairs (pairs q))
    (by rwa [Url.path_withPairs]) id credential
  rw [Url.path_withPairs] at hpath
  rw [query_withPairs hquery] at hform
  have hlist : pairs q = [] ↔ q.query = [] ∧ q.operation ≠ .list := by
    rw [pairs_eq, List.append_eq_nil_iff]
    by_cases hop : q.operation = .list <;> simp [hop]
  refine ⟨?_, hpath, ?_, ?_, ?_, ?_⟩
  · show method q.operation = _
    cases q.operation <;> rfl
  · rw [hform, ← hlist]
    by_cases hnone : pairs q = [] <;> simp [hnone]
  · intro form hmem
    rw [hform] at hmem
    split at hmem
    · exact absurd hmem (by simp)
    · rw [← Option.some_inj.1 hmem, Form.decode?_encode, pairs_eq]
  · intro hnone
    have hvalues : ∀ name ∈ contentNames,
        (t.message q (v.withPairs (pairs q)) id credential).values name = [] := fun name hname =>
      values_content hname hcredential t q _ id none (by rw [hnone]; rfl)
    refine ⟨?_, hvalues _ (by decide), hvalues _ (by decide)⟩
    show q.body.map _ = none
    rw [hnone, Option.map_none]
  · intro b hb
    refine ⟨Utf8.bytes b.textOf, ?_, ?_, ?_, fun depth hdepth => ?_, fun hdepth hintegers => ?_⟩
    · show q.body.map _ = _
      rw [hb, Option.map_some]
    · exact values_content (by decide) hcredential t q _ id (some _) (by rw [hb]; rfl)
    · exact values_content (by decide) hcredential t q _ id (some _) (by rw [hb]; rfl)
    · exact Json.readNearest_textOf (hproper b hb) hdepth
    · exact Json.readBytes_textOf (hintegers.mono fun _ hx => hx.elim) hdepth

/-- An exchange sends nothing, or the message of its request with a credential. -/
theorem sent_execute_cases (t : Transport) (ids : Nat → String) (q : Request) (s : State) :
    (t.execute ids q s).2.sent = s.sent ∨ ∃ u credential, t.url? q = some u ∧
      (t.config.credential.header s.supply).1 = .ok credential ∧
      (t.execute ids q s).2.sent = s.sent ++ [t.message q u (ids s.requests) credential] := by
  rw [execute]
  cases hheader : t.config.credential.header s.supply with
  | mk credential supply =>
    cases credential with
    | error e => exact .inl rfl
    | ok c =>
      dsimp only
      rcases t.send_cases (ids s.requests) c q { s with supply, requests := s.requests + 1 } with
        ⟨peer, -, hsend⟩ | ⟨u, peer, followed, hu, -, hsend⟩
      · refine .inl ?_
        rw [hsend]
        rfl
      · refine .inr ⟨u, c, hu, rfl, ?_⟩
        rw [hsend, State.sent, List.map_append]
        rfl

/-- An exchange that can send does so, unless the connection is refused. -/
theorem sent_execute_ne {s : State} (h : ∃ u, t.CanSend q u s) (hreply : s.peer.take.1 ≠ .refused)
    (ids : Nat → String) : (t.execute ids q s).2.sent ≠ s.sent := by
  obtain ⟨u, hsend⟩ := h
  obtain ⟨c, -, -, htrails⟩ := execute_canSend hsend ids
  have hreceived : s.peer.take.1.isReceived = true := by
    cases hkind : s.peer.take.1 with
    | refused => exact absurd hkind hreply
    | _ => rfl
  rw [State.sent, State.sent, htrails, trail?, if_pos hreceived]
  simp

open Service (localSettings localTransport)

variable {settings : Settings} {u : Url} {path : String}

/-- **A message says all that its request does**, and its path depends on that of the request alone.
The address is any without query and fragment.  Every request has a URL, unless the address ends in
padding, and is sent if there is a token and the connection is not refused. -/
theorem sent_conveys (hc : settings.toConfig = .ok t.config)
    (hu : Url.parse settings.trimmedAddress = .ok u) (hquery : u.query = none)
    (hfragment : u.fragment = none) (hpath : Endpoint.Built path) :
    ∃ target, ∀ (ids : Nat → String) (q : Request) (s : State), q.path = path →
      (∀ v ∈ q.body, v.Proper Binary64.IsCanonical) →
        ((t.execute ids q s).2.sent = s.sent ∨
          ∃ m, (t.execute ids q s).2.sent = s.sent ++ [m] ∧ m.Conveys target q) ∧
        ((∃ u, t.CanSend q u s) → s.peer.take.1 ≠ .refused →
          (t.execute ids q s).2.sent ≠ s.sent) ∧
        ((∀ c ∈ Url.last? settings.trimmedAddress, Url.isPadding c = false) →
          ∃ u, t.url? q = some u) := by
  obtain ⟨u', _, _, haddress, hcheck, _⟩ := Settings.toConfig_eq_ok hc
  obtain rfl : u' = u := Except.ok.inj ((Settings.parse_of_parseAddress haddress).symm.trans hu)
  have hplain : ∀ c ∈ "v1/".toList ++ path.toList.dropWhile (· == '/'),
      Url.isPadding c = false ∧ Url.endsPath c = false := by
    have hword : Endpoint.IsPathText "v1/" := Endpoint.isPathText_word (by decide)
    intro c hc
    refine Endpoint.plain_of_isPathChar (Or.symm ?_)
    rcases List.mem_append.1 hc with hc | hc
    · exact hword c hc
    · exact hpath.isPathText c ((List.dropWhile_suffix _).subset hc)
  have hparse := Url.parse_unmarked hu (Settings.isWeb_of_checkUrl hcheck) hquery hfragment hplain
  rw [← urlText_eq hc] at hparse
  rcases hparse with ⟨v, hv, hhost, hvquery, hmark⟩ | ⟨hnone, c, hlast, hpadding⟩
  · -- one URL for all requests of the path, up to the pairs that are put behind it
    have hurl : ∀ q : Request, q.path = path → t.url? q = some (v.withPairs (pairs q)) := by
      rintro q rfl
      rw [url?, hv]
      exact if_pos hhost
    refine ⟨v.path, fun ids q s hq hproper => ⟨?_,
      fun hcan hreply => sent_execute_ne hcan hreply ids, fun _ => ⟨_, hurl q hq⟩⟩⟩
    rcases sent_execute_cases t ids q s with hsent | ⟨w, credential, hw, hheader, hsent⟩
    · exact .inl hsent
    · rw [hurl q hq] at hw
      obtain rfl := Option.some_inj.1 hw
      exact .inr ⟨_, hsent, conveys_message hvquery hmark hproper
        (headerName_not_mem_contentNames hheader) t _⟩
  · -- no URL, so nothing is sent
    have hurl : ∀ q : Request, q.path = path → t.url? q = none := by
      rintro q rfl
      rw [url?]
      split
      · next v hv => exact absurd hv (hnone v)
      · rfl
    refine ⟨[], fun ids q s hq _ => ⟨.inl ?_,
      fun hcan hreply => sent_execute_ne hcan hreply ids, fun hends => ?_⟩⟩
    · rcases sent_execute_cases t ids q s with hsent | ⟨w, _, hw, -⟩
      · exact hsent
      · rw [hurl q hq] at hw
        exact absurd hw (by simp)
    · exact absurd (hends c hlast) (by simp [hpadding])

/-- A request of a listing with a body, whose query repeats a pair and has marks in it. -/
def oddListing : Request where
  operation := .list
  path := Endpoint.listing "kv" "a b//\\c"
  query := [("", "a&b=c+%# "), ("é", ""), ("", "a&b=c+%# ")]
  body := some (.object [("half", .float ⟨true, 4503599627370496, -53⟩),
    ("rest", .array [.integer (-9223372036854775808), .string "\"\\\n\x01é", .null])])

theorem proper_oddListing : ∀ v ∈ oddListing.body, v.Proper Binary64.IsCanonical := by
  have hhalf : Binary64.IsCanonical ⟨true, 4503599627370496, -53⟩ :=
    ⟨by decide, by decide, by decide, .inl (by decide)⟩
  intro v hv
  rw [← Option.some_inj.1 hv]
  refine .object (fun m hm => ?_) (List.pairwise_pair.2 (by decide +kernel))
  simp only [List.mem_cons, List.not_mem_nil, or_false] at hm
  rcases hm with rfl | rfl
  · exact .float hhalf
  · refine .array fun w hw => ?_
    simp only [List.mem_cons, List.not_mem_nil, or_false] at hw
    rcases hw with rfl | rfl | rfl
    · exact .integer (by decide) (by decide)
    · exact .string _
    · exact .null

/-- Its marks and its numbers get through. -/
theorem sent_conveys_oddListing :
    localSettings.toConfig = .ok localTransport.config ∧
      ∃ u, Url.parse localSettings.trimmedAddress = .ok u ∧ u.query = none ∧ u.fragment = none ∧
        Endpoint.Built oddListing.path ∧
        (∀ v ∈ oddListing.body, v.Proper Binary64.IsCanonical) ∧
        ∃ target m, (localTransport.execute Numeral.decimal oddListing
          (.fresh localTransport (.listening []))).2.sent = [] ++ [m] ∧
            m.Conveys target oddListing := by
  have hc : localSettings.toConfig = .ok localTransport.config := rfl
  have hbuilt : Endpoint.Built oddListing.path := .listing "kv" "a b//\\c"
  obtain ⟨u, hu, hquery, hfragment⟩ : ∃ u, Url.parse localSettings.trimmedAddress = .ok u ∧
      u.query = none ∧ u.fragment = none := ⟨_, rfl, rfl, rfl⟩
  obtain ⟨target, hsent⟩ := sent_conveys hc hu hquery hfragment hbuilt
  obtain ⟨hways, hsends, hurl⟩ := hsent Numeral.decimal oddListing
    (.fresh localTransport (.listening [])) rfl proper_oddListing
  -- the address does not end in padding, so there is a URL, and the token fits into a header
  have hlast : Url.last? localSettings.trimmedAddress = some '0' := by decide
  obtain ⟨v, hv⟩ := hurl fun c hmem => by
    obtain rfl : '0' = c := Option.some_inj.1 (hlast.symm.trans hmem)
    decide
  have hcan : localTransport.CanSend oddListing v (.fresh localTransport (.listening [])) :=
    ⟨hv, (Credential.tokenHeader, "t"), rfl, by decide⟩
  obtain ⟨m, hm, hconveys⟩ := hways.resolve_left (hsends ⟨v, hcan⟩ nofun)
  exact ⟨hc, u, hu, hquery, hfragment, hbuilt, proper_oddListing, target, m, hm, hconveys⟩

end Transport

end Strongbox
