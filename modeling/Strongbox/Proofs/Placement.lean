/-
Where the messages of a service arrive.

`Service.Action.place` are the segments that an operation means: those of its mount, a word for
what it does, and those of its key.  Over HTTP the server reads the target of a message, and the
URL of the message has been made by a parser that takes a backslash for a slash.

* `Sends.leadsTo` — the path of a request has these segments, each encoded;
* `path_of_url?` — the target of its message has that path behind `/v1/`, normalized;
* `Service.segments_eq_place_iff` — so a message arrives at its place exactly if no segment of
  the place has a backslash.
-/
import Strongbox.Proofs.Courses
import Strongbox.Proofs.Origin
import Strongbox.Proofs.Requests
import Strongbox.Proofs.Resolution

namespace Strongbox

open Endpoint (Encodes encodeSegment segments)

/-! ### Places -/

/-- The segments that an operation on secrets means. -/
def Secrets.Action.place {α : Type} : Secrets.Action α → List (List Char)
  | .write mount key _ => segments mount.toList ++ "data".toList :: segments key.toList
  | .read mount key => segments mount.toList ++ "data".toList :: segments key.toList
  | .readVersion mount key _ => segments mount.toList ++ "data".toList :: segments key.toList
  | .readVersioned mount key _ => segments mount.toList ++ "data".toList :: segments key.toList
  | .writeMap mount key _ => segments mount.toList ++ "data".toList :: segments key.toList
  | .readMap mount key => segments mount.toList ++ "data".toList :: segments key.toList
  | .readMapVersion mount key _ => segments mount.toList ++ "data".toList :: segments key.toList
  | .list mount => segments mount.toList ++ ["metadata".toList, []]

/-- The segments that an operation of a service means, when the transit mount was set to
`transitMount`. -/
def Service.Action.place (transitMount : String) {α : Type} : Service.Action α → List (List Char)
  | .health => ["sys".toList, "health".toList]
  | .serverVersion => ["sys".toList, "health".toList]
  | .encrypt key _ => segments transitMount.toList ++ "encrypt".toList :: segments key.toList
  | .decrypt key _ => segments transitMount.toList ++ "decrypt".toList :: segments key.toList
  | .secret action => action.place

/-- The segments of a message as the server reads them: of its target up to the query, each
decoded. -/
def Wire.Message.segments (m : Wire.Message) : List (List UInt8) :=
  Url.Path.decoded (m.target.toList.takeWhile (· != '?'))

/-- A path leads to a place: it has the segments of the place, each encoded.  No segment is a dot
segment, and the first one is not empty. -/
structure Endpoint.LeadsTo (path : String) (place : List (List Char)) : Prop where
  pieces : Text.pieces '/' path.toList = place.map encodeSegment
  not_dot : ∀ s ∈ place, Argument.isDotSegment s = false
  head_ne_nil : ∀ s ∈ place.head?, s ≠ []

namespace Endpoint

theorem Encodes.not_dot_of_mem {name path : String} (h : Encodes name path) {s : List Char}
    (hs : s ∈ segments name.toList) : Argument.isDotSegment s = false := by
  have hmem : encodeSegment s ∈ Text.pieces '/' path.toList := by
    rw [h.encoded]
    exact List.mem_map_of_mem hs
  rw [← isDotSegment_encodeSegment, h.not_dot _ hmem]

theorem Encodes.segments_ne_nil {name path : String} (h : Encodes name path) :
    segments name.toList ≠ [] := by
  intro hnil
  have hpieces := h.encoded
  rw [hnil] at hpieces
  exact Text.pieces_ne_nil '/' path.toList hpieces

/-- The path of a name, and segments behind it that stand for themselves. -/
theorem leadsTo_append {name path : String} (h : Encodes name path) {rest : String}
    {place : List (List Char)} (hrest : Text.pieces '/' rest.toList = place.map encodeSegment)
    (hdot : ∀ s ∈ place, Argument.isDotSegment s = false) :
    LeadsTo (path ++ "/" ++ rest) (segments name.toList ++ place) := by
  have hlist : (path ++ "/" ++ rest).toList = path.toList ++ '/' :: rest.toList := by simp
  constructor
  · rw [hlist, Text.pieces_append_cons, h.encoded, hrest, List.map_append]
  · intro s hs
    rcases List.mem_append.1 hs with hs | hs
    · exact h.not_dot_of_mem hs
    · exact hdot s hs
  · intro s hs
    obtain ⟨t, ts, ht⟩ := List.exists_cons_of_ne_nil h.segments_ne_nil
    rw [ht, List.cons_append] at hs
    obtain rfl : t = s := Option.some_inj.1 hs
    exact (mem_segments.1 (ht ▸ List.mem_cons_self)).2

/-- The path of a name in a mount, behind a word that stands for itself. -/
theorem leadsTo_word {mount key M K word : String} (hm : Encodes mount M) (hk : Encodes key K)
    (hword : encodeSegment word.toList = word.toList)
    (hdot : Argument.isDotSegment word.toList = false) :
    LeadsTo (M ++ "/" ++ (word ++ "/" ++ K))
      (segments mount.toList ++ word.toList :: segments key.toList) := by
  have hslash : '/' ∉ word.toList := hword ▸ not_slash_of_encodeSegment word.toList
  have hlist : (word ++ "/" ++ K).toList = word.toList ++ '/' :: K.toList := by simp
  refine leadsTo_append hm ?_ fun s hs => ?_
  · rw [hlist, Text.pieces_append_cons, Text.pieces_of_not_mem hslash, hk.encoded, List.map_cons,
      hword, List.singleton_append]
  · rcases List.mem_cons.1 hs with rfl | hs
    · exact hdot
    · exact hk.not_dot_of_mem hs

end Endpoint

open Endpoint (LeadsTo leadsTo_append leadsTo_word)

/-- The path of a request on secrets leads to the place of its operation. -/
theorem Secrets.Action.Sends.leadsTo {α : Type} {a : Secrets.Action α} {q : Request}
    (h : a.Sends q) : LeadsTo q.path a.place := by
  have hdata : ∀ {mount key M K : String}, Encodes mount M → Encodes key K →
      LeadsTo (M ++ "/data/" ++ K)
        (segments mount.toList ++ "data".toList :: segments key.toList) := by
    intro mount key M K hm hk
    have hpath : M ++ "/data/" ++ K = M ++ "/" ++ ("data" ++ "/" ++ K) := by
      rw [String.append_assoc, String.append_assoc, String.append_assoc]
      rfl
    rw [hpath]
    exact leadsTo_word hm hk (by decide) (by decide)
  cases h with
  | write hm hk => exact hdata hm hk
  | read hm hk => exact hdata hm hk
  | readVersion hm hk => exact hdata hm hk
  | readVersioned hm hk => exact hdata hm hk
  | writeMap hm hk => exact hdata hm hk
  | readMap hm hk => exact hdata hm hk
  | readMapVersion hm hk => exact hdata hm hk
  | @list mount M hm =>
    have hpath : M ++ "/metadata/" = M ++ "/" ++ "metadata/" := by
      rw [String.append_assoc]
      rfl
    show LeadsTo (M ++ "/metadata/") (segments mount.toList ++ ["metadata".toList, []])
    rw [hpath]
    exact leadsTo_append hm (by decide) (by decide)

theorem Service.Action.Sends.leadsTo {transitMount : String} {α : Type} {a : Service.Action α}
    {q : Request} (h : a.Sends transitMount q) : LeadsTo q.path (a.place transitMount) := by
  have hhealth : LeadsTo "sys/health" ["sys".toList, "health".toList] := by
    constructor
    · decide
    · decide
    · decide
  have hword : ∀ {w key T K : String}, Encodes transitMount T → Encodes key K →
      encodeSegment w.toList = w.toList → Argument.isDotSegment w.toList = false →
      LeadsTo (T ++ ("/" ++ w ++ "/") ++ K)
        (segments transitMount.toList ++ w.toList :: segments key.toList) := by
    intro w key T K ht hk hself hdot
    have hpath : T ++ ("/" ++ w ++ "/") ++ K = T ++ "/" ++ (w ++ "/" ++ K) := by
      simp only [String.append_assoc]
    rw [hpath]
    exact leadsTo_word ht hk hself hdot
  cases h with
  | health => exact hhealth
  | serverVersion => exact hhealth
  | encrypt ht hk => exact hword (w := "encrypt") ht hk (by decide) (by decide)
  | decrypt ht hk => exact hword (w := "decrypt") ht hk (by decide) (by decide)
  | secret h => exact h.leadsTo

/-! ### Paths that lead to a place -/

/-- A slash and what may stand between slashes is no padding and ends no path. -/
theorem Endpoint.plain_of_isPathChar {c : Char} (h : isPathChar c = true ∨ c = '/') :
    Url.isPadding c = false ∧ Url.endsPath c = false := by
  rcases h with h | rfl
  · have hpoint : ¬ c.toNat ≤ 0x20 ∧ c ≠ '?' ∧ c ≠ '#' := by
      simp only [isPathChar, Bool.and_eq_true, decide_eq_true_eq] at h
      refine ⟨by omega, ?_, ?_⟩
      · rintro rfl
        exact absurd h.2 (by decide)
      · rintro rfl
        exact absurd h.2 (by decide)
    simpa [Url.isPadding, Url.endsPath] using hpoint
  · decide

namespace Endpoint.LeadsTo

variable {path : String} {place : List (List Char)}

theorem isPathChar_or_slash (h : LeadsTo path place) {c : Char} (hc : c ∈ path.toList) :
    isPathChar c = true ∨ c = '/' := by
  rw [← Text.join_pieces '/' path.toList, h.pieces] at hc
  rcases Text.mem_join hc with hc | ⟨p, hp, hcp⟩
  · exact Or.inr hc
  · obtain ⟨s, _, rfl⟩ := List.mem_map.1 hp
    exact Or.inl (isPathChar_of_mem_encodeSegment hcp)

theorem dropWhile_slash (h : LeadsTo path place) :
    path.toList.dropWhile (· == '/') = path.toList := by
  refine Text.dropWhile_eq_self fun c hc => ?_
  by_contra hslash
  obtain ⟨rest, hrest⟩ : ∃ rest, path.toList = '/' :: rest := by
    cases hp : path.toList with
    | nil =>
      rw [hp] at hc
      exact absurd hc (by simp)
    | cons d rest =>
      rw [hp] at hc
      obtain rfl : d = c := Option.some_inj.1 hc
      exact ⟨rest, by rw [(by simpa using hslash : d = '/')]⟩
  have hpieces := h.pieces
  rw [hrest, Text.pieces_cons_self] at hpieces
  cases hplace : place with
  | nil =>
    rw [hplace] at hpieces
    exact absurd hpieces (List.cons_ne_nil _ _)
  | cons s rest =>
    rw [hplace, List.map_cons] at hpieces
    have hne := h.head_ne_nil s (by rw [hplace]; rfl)
    exact encodeSegment_ne_nil hne (List.cons.inj hpieces).1.symm

/-- Behind the version of the interface the path leads to the place there. -/
theorem pieces_cons (h : LeadsTo path place) :
    Text.pieces '/' ("v1/".toList ++ path.toList) = ("v1".toList :: place).map encodeSegment := by
  have hv1 : "v1/".toList = "v1".toList ++ ['/'] := by decide
  have hself : encodeSegment "v1".toList = "v1".toList := by decide
  have hslash : '/' ∉ "v1".toList := by decide
  rw [hv1, List.append_assoc, List.singleton_append, Text.pieces_append_cons,
    Text.pieces_of_not_mem hslash, h.pieces, List.map_cons, hself, List.singleton_append]

/-- There the path has no padding, and nothing that ends a path. -/
theorem plain_of_mem (h : LeadsTo path place) {c : Char} (hc : c ∈ "v1/".toList ++ path.toList) :
    Url.isPadding c = false ∧ Url.endsPath c = false := by
  refine plain_of_isPathChar ?_
  rcases List.mem_append.1 hc with hc | hc
  · have hv1 : "v1/".toList.all (fun d => isPathChar d || d == '/') = true := by decide
    simpa using List.all_eq_true.1 hv1 c hc
  · exact h.isPathChar_or_slash hc

end Endpoint.LeadsTo

namespace Url

/-! ### Addresses without a path -/

/-- Is the address a scheme and a server, without a path, a query or a fragment? -/
def IsBare (address : List Char) : Prop :=
  ∃ scheme rest, address = scheme ++ "://".toList ++ rest ∧
    (∀ c ∈ scheme, isSchemeChar c = true) ∧ InAuthority rest

theorem scheme?_of_forall {scheme scheme' x rest : List Char}
    (hall : ∀ c ∈ scheme, isSchemeChar c = true)
    (h : scheme? (scheme ++ ':' :: x) = some (scheme', rest)) : rest = x := by
  have hcolon : ∀ c ∈ (':' :: x).head?, isSchemeChar c = false := by
    intro c hc
    obtain rfl : ':' = c := Option.some_inj.1 hc
    decide
  have hdrop : (scheme ++ ':' :: x).dropWhile isSchemeChar = ':' :: x := by
    rw [Text.dropWhile_append_of_head hcolon, List.dropWhile_eq_nil_iff.2 hall, List.nil_append]
  rw [scheme?.eq_def] at h
  split at h
  · next c s hs =>
    split at h
    · rw [hdrop] at h
      exact (Prod.mk.inj (Option.some_inj.1 h)).2.symm
    · exact absurd h (by simp)
  · exact absurd h (by simp)

/-- Behind the slashes of an address without a path everything is the authority. -/
theorem inAuthority_of_isBare {s scheme rest : List Char} (hbare : IsBare s)
    (h : scheme? (clean s) = some (scheme, rest)) : InAuthority (rest.dropWhile isSlash) := by
  obtain ⟨sch, r, rfl, hsch, hr⟩ := hbare
  -- a scheme has no padding, so cleaning leaves it as it is
  have hplain : ∀ c, isSchemeChar c = true → isPadding c = false := by
    intro c hc
    by_contra hpad
    have hnot := forall_isPadding (P := fun z => isSchemeChar z = false) (by decide)
      (by simpa using hpad)
    rw [hnot] at hc
    exact absurd hc (by decide)
  have hshape : sch ++ "://".toList ++ r = (sch ++ [':', '/']) ++ '/' :: r := by simp
  have hclean : clean (sch ++ "://".toList ++ r) = sch ++ ':' :: '/' :: '/' :: cleanEnd r := by
    have hhead : ∀ c ∈ (sch ++ [':', '/'] ++ '/' :: r).head?, isPadding c = false := by
      intro c hc
      cases sch with
      | nil =>
        obtain rfl : ':' = c := Option.some_inj.1 hc
        decide
      | cons d sch =>
        obtain rfl : d = c := Option.some_inj.1 hc
        exact hplain d (hsch d List.mem_cons_self)
    have hkeep : sch.filter (fun c => !isSkipped c) = sch :=
      filter_isSkipped_eq_self fun c hc => hplain c (hsch c hc)
    rw [clean, Text.trimBoth, hshape, Text.dropWhile_eq_self hhead,
      Text.trimEnd_append_cons (by decide), List.filter_append, List.filter_append, hkeep,
      List.append_assoc]
    rfl
  rw [hclean] at h
  obtain rfl := scheme?_of_forall hsch h
  intro c hc
  refine hr c ?_
  have hmem : c ∈ cleanEnd r := (List.dropWhile_suffix _).subset hc
  obtain ⟨w, hw, _⟩ := Text.exists_eq_trimEnd_append isPadding r
  rw [hw]
  exact List.mem_append_left w (List.mem_filter.1 hmem).1

theorem path_withPairs (u : Url) (ps : List (String × String)) :
    (u.withPairs ps).path = u.path := by
  rw [withPairs]
  split
  · rfl
  · split <;> rfl

/-- Without a mark all that stands behind the authority is the path. -/
theorem path_withAuthority {scheme s : List Char} {c : Char} (hs : isSpecial scheme = true)
    (hc : isSlash c = true) (a : Authority) (h : ∀ d ∈ s, endsPath d = false) :
    (withAuthority scheme a (c :: s)).path = Path.normalize true s ∧
      (withAuthority scheme a (c :: s)).query = none ∧
      (withAuthority scheme a (c :: s)).fragment = none := by
  have hslash : c = '/' ∨ c = '\\' := by simpa [isSlash] using hc
  have hall : ∀ d ∈ c :: s, (!endsPath d) = true := by
    intro d hd
    rcases List.mem_cons.1 hd with rfl | hd
    · rcases hslash with rfl | rfl <;> decide
    · rw [h d hd]
      rfl
  have htail : tailParts (isSpecial scheme) ((c :: s).dropWhile fun d => !endsPath d) =
      (none, none) := by
    rw [List.dropWhile_eq_nil_iff.2 hall]
    rfl
  refine ⟨?_, congrArg Prod.fst htail, congrArg Prod.snd htail⟩
  show pathAfterHost (isSpecial scheme) ((c :: s).takeWhile fun d => !endsPath d) = _
  rw [List.takeWhile_eq_self_iff.2 hall, hs, pathAfterHost]
  rcases hslash with rfl | rfl
  · rw [if_pos (Or.inl rfl)]
  · rw [if_pos (Or.inr ⟨rfl, rfl⟩)]

theorem cleanEnd_eq_self {s : List Char} (h : ∀ c ∈ s, isPadding c = false) : cleanEnd s = s := by
  have htrim : Text.trimEnd isPadding s = s := by
    rw [Text.trimEnd, Text.dropWhile_eq_self, List.reverse_reverse]
    exact fun c hc => h c (List.mem_reverse.1 (List.mem_of_mem_head? hc))
  rw [cleanEnd, htrim, filter_isSkipped_eq_self h]

end Url

/-! ### Messages -/

namespace Transport

variable {settings : Settings} {t : Transport} {q : Request} {u : Url} {place : List (List Char)}

/-- The path of the URL of a request: that of the request behind the version of the interface,
normalized. -/
theorem path_of_url? (hc : settings.toConfig = .ok t.config)
    (hbare : Url.IsBare settings.trimmedAddress) (hq : Endpoint.LeadsTo q.path place)
    (hu : t.url? q = some u) :
    u.path = Url.Path.normalize true ("v1/".toList ++ q.path.toList) := by
  rw [url?] at hu
  split at hu
  · next v hparse =>
    split at hu
    · obtain rfl := Option.some_inj.1 hu
      obtain ⟨u₀, _, _, haddress, hcheck, _⟩ := Settings.toConfig_eq_ok hc
      rw [urlText_eq hc, hq.dropWhile_slash] at hparse
      obtain ⟨scheme, rest, a, r, r', hscheme, hs, _, rfl, hr'⟩ :=
        Url.parse_append_cons (Settings.parse_of_parseAddress haddress)
          (Settings.isWeb_of_checkUrl hcheck) hparse
      -- cleaning leaves the path alone, so it is all that follows the authority
      rw [Url.cleanEnd_eq_self fun c hmem => (hq.plain_of_mem hmem).1] at hr'
      obtain rfl := hr' (Url.inAuthority_of_isBare hbare hscheme)
      rw [Url.path_withPairs,
        (Url.path_withAuthority hs rfl a fun c hmem => (hq.plain_of_mem hmem).2).1]
    · exact absurd hu (by simp)
  · exact absurd hu (by simp)

/-- A path without question marks is what stands in front of the first one of a target. -/
theorem span_target (hmark : '?' ∉ u.path) : u.target.takeWhile (· != '?') = u.path ∧
    u.target.dropWhile (· != '?') = Url.marked '?' u.query := by
  have hhead : ∀ c ∈ (Url.marked '?' u.query).head?, (c != '?') = false := by
    intro c hc
    cases hquery : u.query with
    | none =>
      rw [hquery] at hc
      exact absurd hc (by simp [Url.marked])
    | some s =>
      rw [hquery] at hc
      obtain rfl : '?' = c := Option.some_inj.1 hc
      decide
  have hall : ∀ c ∈ u.path, (c != '?') = true := fun c hc => by
    simpa using ne_of_mem_of_not_mem hc hmark
  rw [Url.target, Text.takeWhile_append_of_head hhead, Text.dropWhile_append_of_head hhead,
    List.takeWhile_eq_self_iff.2 hall, List.dropWhile_eq_nil_iff.2 hall]
  exact ⟨rfl, rfl⟩

theorem segments_of_target {m : Wire.Message} (hm : m.target = String.ofList u.target)
    (hmark : '?' ∉ u.path) : m.segments = Url.Path.decoded u.path := by
  rw [Wire.Message.segments, hm, String.toList_ofList, (span_target hmark).1]

/-- A request whose credential is known is not sent, finds that the connection is refused, or is
sent as one message, which others may follow. -/
theorem send_cases (t : Transport) (id : String) (credential : String × String) (q : Request)
    (s : State) :
    (∃ peer, (peer = s.peer ∨ s.peer.take = (.refused, peer)) ∧
      (t.send id credential q s).2 = { s with peer }) ∨
    ∃ u peer followed, t.url? q = some u ∧
      t.client.Leads (setup t.config) u (t.message q u id credential) followed ∧
      (t.send id credential q s).2 =
        { s with peer, trails := s.trails ++ [⟨u, t.message q u id credential, followed⟩] } := by
  rw [send]
  cases hu : t.url? q with
  | none => exact .inl ⟨s.peer, .inl rfl, rfl⟩
  | some u =>
    dsimp only
    split
    · exact .inl ⟨s.peer, .inl rfl, rfl⟩
    · cases hreply : s.peer.take.1 with
      | refused =>
        refine .inl ⟨s.peer.take.2, .inr (Prod.ext hreply rfl), ?_⟩
        rw [course, hreply, Wire.Client.follow_refused]
        exact congrArg (fun trails => State.mk s.supply s.peer.take.2 trails s.requests)
          (List.append_nil s.trails)
      | closed | silent | answer a =>
        exact .inr ⟨u, _, _, rfl, t.client.leads_follow _ _ _ _ _ _, rfl⟩

/-- An exchange sends one message, for the URL of its request, or none. -/
theorem sent_execute (t : Transport) (ids : Nat → String) (q : Request) (s : State) :
    ∃ new, (t.execute ids q s).2.sent = s.sent ++ new ∧
      ∀ m ∈ new, ∃ u, t.url? q = some u ∧ m.target = String.ofList u.target := by
  rw [execute]
  cases hcred : t.config.credential.header s.supply with
  | mk credential supply =>
    cases credential with
    | error e => exact ⟨[], (List.append_nil _).symm, by simp⟩
    | ok c =>
      dsimp only
      rcases t.send_cases (ids s.requests) c q { s with supply, requests := s.requests + 1 } with
        ⟨peer, -, hsend⟩ | ⟨u, peer, followed, hu, -, hsend⟩
      · exact ⟨[], by rw [hsend, List.append_nil]; rfl, by simp⟩
      · refine ⟨[t.message q u (ids s.requests) c], ?_, fun m hm => ?_⟩
        · rw [hsend, State.sent, List.map_append]
          rfl
        · rw [List.mem_singleton.1 hm]
          exact ⟨u, hu, rfl⟩

end Transport

namespace Service

theorem sent_act (s : Service) (t : Transport) (ids : Nat → String) {α : Type}
    (a : Service.Action α) (session : Session Transport.State) :
    ∃ new, (s.act (t.backend ids) a session).2.state.sent = session.state.sent ++ new ∧
      ∀ m ∈ new, ∃ q u, (a.call s).plan.request? = some q ∧ t.url? q = some u ∧
        m.target = String.ofList u.target := by
  rw [act, Call.run]
  cases (a.call s).plan with
  | settled r => exact ⟨[], (List.append_nil _).symm, by simp⟩
  | exchange q finish =>
    obtain ⟨new, hsent, hnew⟩ := t.sent_execute ids q session.state
    refine ⟨new, hsent, fun m hm => ?_⟩
    obtain ⟨u, hu, hm⟩ := hnew m hm
    exact ⟨q, u, rfl, hu, hm⟩

/-- A service and its transport have the configuration and the client they were made of. -/
theorem connect_eq_ok {client : Wire.Client} {c : Config} {s : Service} {t : Transport}
    (h : connect client c = .ok (s, t)) :
    Service.new c = .ok s ∧ t.config = c ∧ t.client = client := by
  rw [connect] at h
  obtain ⟨s', hs, h⟩ := Results.bind_eq_ok.1 h
  rw [Transport.new] at h
  split at h
  · next t' ht =>
    obtain ⟨rfl, rfl⟩ := Prod.mk.inj (Except.ok.inj h)
    split at ht
    · exact absurd ht (by simp)
    · split at ht
      · exact absurd ht (by simp)
      · rw [← Except.ok.inj ht]
        exact ⟨hs, rfl, rfl⟩
  · exact absurd h (by simp)

/-- **A message arrives at its place exactly if no segment of that has a backslash.**  The address
of the settings has no path of its own. -/
theorem segments_eq_place_iff {client : Wire.Client} {settings : Settings} {c : Config}
    {s : Service} {t : Transport} (hc : settings.toConfig = .ok c)
    (hs : connect client c = .ok (s, t))
    (hbare : Url.IsBare settings.trimmedAddress) (ids : Nat → String) {α : Type}
    (a : Service.Action α) (session : Session Transport.State) :
    ∃ new, (s.act (t.backend ids) a session).2.state.sent = session.state.sent ++ new ∧
      ∀ m ∈ new, (m.segments = ("v1".toList :: a.place settings.transitMount).map Utf8.bytes ↔
        ∀ x ∈ a.place settings.transitMount, '\\' ∉ x) := by
  obtain ⟨hnew, rfl, -⟩ := connect_eq_ok hs
  have hof : ofSettings settings = .ok s := by
    rw [ofSettings, hc]
    exact hnew
  obtain ⟨new, hsent, hmessages⟩ := sent_act s t ids a session
  refine ⟨new, hsent, fun m hm => ?_⟩
  obtain ⟨q, u, hq, hu, htarget⟩ := hmessages m hm
  have hleads := (Action.request?_sends hof hq).leadsTo
  have hpieces := hleads.pieces_cons
  have hpath := Transport.path_of_url? hc hbare hleads hu
  -- the target ends its path at the first question mark
  have hmark : '?' ∉ u.path := by
    intro hmem
    rw [hpath] at hmem
    rcases Url.Path.isPathChar_or_slash_of_mem_normalize hpieces hmem with hchar | hslash
    · exact absurd hchar (by decide)
    · exact absurd hslash (by decide)
  rw [Transport.segments_of_target htarget hmark, hpath, Url.Path.decoded_normalize_iff hpieces]
  · constructor
    · exact fun h x hx => h x (List.mem_cons_of_mem _ hx)
    · intro h x hx
      rcases List.mem_cons.1 hx with rfl | hx
      · decide
      · exact h x hx
  · intro x hx
    rcases List.mem_cons.1 hx with rfl | hx
    · decide
    · exact hleads.not_dot x hx

open Wire.Standard (bare)

/-- Settings for a server on the machine itself. -/
def localSettings : Settings :=
  (Settings.new "http://127.0.0.1:8200").withCredential (.token "t")

/-- A read of an ordinary name arrives at its place. -/
theorem segments_eq_place_of_plain_name :
    ∃ c s t, localSettings.toConfig = .ok c ∧ connect bare c = .ok (s, t) ∧
      Url.IsBare localSettings.trimmedAddress ∧
      ∃ new, (s.act (t.backend fun _ => "id") (.secret (.read "secret" "db/url"))
          (.fresh (.fresh t (.listening [])))).2.state.sent = [] ++ new ∧
        ∀ m ∈ new, (m.segments = ("v1".toList ::
            Action.place localSettings.transitMount (.secret (.read "secret" "db/url"))).map
              Utf8.bytes ↔
          ∀ x ∈ Action.place localSettings.transitMount (.secret (.read "secret" "db/url")),
            '\\' ∉ x) := by
  obtain ⟨c, s, t, hc, hs⟩ :
      ∃ c s t, localSettings.toConfig = .ok c ∧ connect bare c = .ok (s, t) :=
    ⟨_, _, _, rfl, rfl⟩
  have hbare : Url.IsBare localSettings.trimmedAddress :=
    ⟨"http".toList, "127.0.0.1:8200".toList, by decide +kernel,
      List.all_eq_true.1 (by decide), fun c hmem => by
        have hall : "127.0.0.1:8200".toList.all (!Url.endsAuthority true ·) = true := by decide
        simpa using List.all_eq_true.1 hall c hmem⟩
  exact ⟨c, s, t, hc, hs, hbare, segments_eq_place_iff hc hs hbare _ _ _⟩

/-- A read of a name with backslashes is accepted and leaves its mount: the server is asked for
`/v1/x`, which is not where the secret of that name would be. -/
theorem segments_ne_place_of_backslash :
    Argument.require .secretKey "..\\..\\x" = .ok "..\\..\\x" ∧
      ((localSettings.toConfig.toOption.bind fun c => (connect bare c).toOption).map fun p =>
        (p.1.act (p.2.backend fun _ => "id") (.secret (.read "secret" "..\\..\\x"))
          (.fresh (.fresh p.2 (.listening [])))).2.state.sent.map fun m =>
            (m.target, m.segments)) =
        some [("/v1/x", ["v1".toList, "x".toList].map Utf8.bytes)] ∧
      ["v1".toList, "x".toList].map Utf8.bytes ≠
        ("v1".toList :: Action.place localSettings.transitMount
          (.secret (.read "secret" "..\\..\\x"))).map Utf8.bytes := by
  decide +kernel

end Service
end Strongbox
