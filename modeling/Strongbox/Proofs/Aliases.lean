/-
Names that share a path.

The path of an operation has the segments of its names, and an empty segment is none.  So a name
with slashes in a row shares its path with the name that has one slash there, although both are
accepted and neither is changed when it is.

* `Endpoint.LeadsTo.path_inj` — two paths are the same exactly if they lead to one place;
* `Endpoint.IsTight.segments_eq_iff` — names without empty segments have the same segments only if
  they are the same;
* `Service.path_eq_iff` — two operations on keys of one mount, or of the transit mount, have one
  path exactly if the keys have the same segments;
* `Service.act_read_of_double_slash` — two accepted names of one secret.
-/
import Strongbox.Backend.Memory
import Strongbox.Proofs.Placement
import Strongbox.Proofs.Validation

namespace Strongbox

open Endpoint (LeadsTo encodeSegment segments)

namespace Endpoint

/-- A path tells the place that it leads to. -/
theorem LeadsTo.path_inj {path path' : String} {place place' : List (List Char)}
    (h : LeadsTo path place) (h' : LeadsTo path' place') : path = path' ↔ place = place' := by
  constructor
  · rintro rfl
    have hmap : place.map encodeSegment = place'.map encodeSegment := by
      rw [← h.pieces, h'.pieces]
    exact List.map_injective_iff.2 (fun _ _ => encodeSegment_injective) hmap
  · rintro rfl
    have hpieces : Text.pieces '/' path.toList = Text.pieces '/' path'.toList := by
      rw [h.pieces, h'.pieces]
    refine String.toList_injective ?_
    rw [← Text.join_pieces '/' path.toList, hpieces, Text.join_pieces]

/-- Has the name no empty segment? -/
def IsTight (name : String) : Prop := ∀ p ∈ Text.pieces '/' name.toList, p ≠ []

theorem IsTight.segments_eq {name : String} (h : IsTight name) :
    segments name.toList = Text.pieces '/' name.toList := by
  rw [segments, List.filter_eq_self]
  intro p hp
  simpa using h p hp

theorem IsTight.segments_eq_iff {a b : String} (ha : IsTight a) (hb : IsTight b) :
    segments a.toList = segments b.toList ↔ a = b := by
  constructor
  · intro h
    rw [ha.segments_eq, hb.segments_eq] at h
    refine String.toList_injective ?_
    rw [← Text.join_pieces '/' a.toList, h, Text.join_pieces]
  · rintro rfl
    rfl

end Endpoint

/-! ### Operations on keys -/

/-- The key that an operation on secrets is given, if it is given one. -/
def Secrets.Action.key? {α : Type} : Secrets.Action α → Option String
  | .write _ key _ => some key
  | .read _ key => some key
  | .readVersion _ key _ => some key
  | .readVersioned _ key _ => some key
  | .writeMap _ key _ => some key
  | .readMap _ key => some key
  | .readMapVersion _ key _ => some key
  | .list _ => none

namespace Secrets.Action

variable {α : Type} {a : Secrets.Action α} {key : String}

theorem place_eq (h : a.key? = some key) :
    a.place = segments a.mount.toList ++ "data".toList :: segments key.toList := by
  cases a with
  | list mount => exact absurd h (by simp [key?])
  | _ =>
    obtain rfl := Option.some_inj.1 h
    rfl

theorem names_eq (h : a.key? = some key) : a.names = keyNames a.mount key := by
  cases a with
  | list mount => exact absurd h (by simp [key?])
  | _ =>
    obtain rfl := Option.some_inj.1 h
    rfl

end Secrets.Action

namespace Service

open Argument (AllAccepted)

variable {settings : Settings} {s : Service}

/-- An operation on accepted names hands over a request, whose path leads to its place. -/
theorem Action.exists_leadsTo (hs : ofSettings settings = .ok s) {α : Type} {a : Service.Action α}
    (h : AllAccepted a.names) (hne : ¬ a.IsEmptyWrite) :
    ∃ q, (a.call s).plan.request? = some q ∧ LeadsTo q.path (a.place settings.transitMount) := by
  obtain ⟨q, hq⟩ := (Action.isExchange_call s a h hne).exists_request
  exact ⟨q, hq, (Action.request?_sends hs hq).leadsTo⟩

/-- Two operations on accepted names have one path exactly if they mean one place. -/
theorem Action.path_eq_iff_place (hs : ofSettings settings = .ok s) {α β : Type}
    {a : Service.Action α} {b : Service.Action β} (ha : AllAccepted a.names)
    (hb : AllAccepted b.names) (hane : ¬ a.IsEmptyWrite) (hbne : ¬ b.IsEmptyWrite) :
    ∃ q r, (a.call s).plan.request? = some q ∧ (b.call s).plan.request? = some r ∧
      (q.path = r.path ↔ a.place settings.transitMount = b.place settings.transitMount) := by
  obtain ⟨q, hq, hleads⟩ := Action.exists_leadsTo hs ha hane
  obtain ⟨r, hr, hleads'⟩ := Action.exists_leadsTo hs hb hbne
  exact ⟨q, r, hq, hr, hleads.path_inj hleads'⟩

/-- **Two accepted names share a path exactly if they have the same segments.**  For any two
operations on keys of one mount, for two encryptions and for two decryptions, the paths of the
requests that they hand over are the same exactly if what is left of the keys has the same segments
that are not empty.  Among keys without empty segments that means to be the same key. -/
theorem path_eq_iff (hs : ofSettings settings = .ok s) {n n' : ArgumentName}
    {key key' t t' : String} (hkey : Argument.require n key = .ok t)
    (hkey' : Argument.require n' key' = .ok t') :
    (∀ {α β : Type} (a : Secrets.Action α) (b : Secrets.Action β), a.mount = b.mount →
        (∃ m, Argument.require .mount a.mount = .ok m) → a.key? = some key → b.key? = some key' →
        ¬ (Action.secret a).IsEmptyWrite → ¬ (Action.secret b).IsEmptyWrite →
      ∃ q r, a.call.plan.request? = some q ∧ b.call.plan.request? = some r ∧
        (q.path = r.path ↔ segments t.toList = segments t'.toList)) ∧
    (∀ plaintext plaintext',
      ∃ q r, (s.encrypt key plaintext).plan.request? = some q ∧
        (s.encrypt key' plaintext').plan.request? = some r ∧
        (q.path = r.path ↔ segments t.toList = segments t'.toList)) ∧
    (∀ ciphertext ciphertext',
      ∃ q r, (s.decrypt key ciphertext).plan.request? = some q ∧
        (s.decrypt key' ciphertext').plan.request? = some r ∧
        (q.path = r.path ↔ segments t.toList = segments t'.toList)) ∧
    (Endpoint.IsTight t → Endpoint.IsTight t' →
      (segments t.toList = segments t'.toList ↔ t = t')) := by
  -- behind the same mount and the same word, the places differ in the segments of the keys alone
  have hplace : ∀ (front : List (List Char)) (word : List Char),
      front ++ word :: segments key.toList = front ++ word :: segments key'.toList ↔
        segments t.toList = segments t'.toList := by
    intro front word
    rw [List.append_cancel_left_eq, List.cons_inj_right,
      Argument.segments_of_require hkey, Argument.segments_of_require hkey']
  have htransit : AllAccepted [(.transitKey, key)] :=
    Argument.allAccepted_singleton.2 ⟨t, Argument.require_congr hkey⟩
  have htransit' : AllAccepted [(.transitKey, key')] :=
    Argument.allAccepted_singleton.2 ⟨t', Argument.require_congr hkey'⟩
  refine ⟨fun a b hmount hm ha hb hane hbne => ?_, fun p p' => ?_, fun c c' => ?_,
    fun ht ht' => ht.segments_eq_iff ht'⟩
  · have haccept : AllAccepted (Action.secret a).names := by
      rw [Action.names, Secrets.Action.names_eq ha]
      exact Argument.allAccepted_keyNames.2 ⟨hm, t, Argument.require_congr hkey⟩
    have haccept' : AllAccepted (Action.secret b).names := by
      rw [Action.names, Secrets.Action.names_eq hb, ← hmount]
      exact Argument.allAccepted_keyNames.2 ⟨hm, t', Argument.require_congr hkey'⟩
    obtain ⟨q, r, hq, hr, hiff⟩ := Action.path_eq_iff_place hs haccept haccept' hane hbne
    refine ⟨q, r, hq, hr, hiff.trans ?_⟩
    rw [Action.place, Action.place, Secrets.Action.place_eq ha, Secrets.Action.place_eq hb, hmount]
    exact hplace _ _
  · obtain ⟨q, r, hq, hr, hiff⟩ := Action.path_eq_iff_place hs (a := .encrypt key p)
      (b := .encrypt key' p') htransit htransit' id id
    exact ⟨q, r, hq, hr, hiff.trans (hplace _ _)⟩
  · obtain ⟨q, r, hq, hr, hiff⟩ := Action.path_eq_iff_place hs (a := .decrypt key c)
      (b := .decrypt key' c') htransit htransit' id id
    exact ⟨q, r, hq, hr, hiff.trans (hplace _ _)⟩

/-- A key between slashes and with two in a row, and the key without them: a write of the one and a
read of the other hand over the same path. -/
theorem path_eq_iff_slashes :
    ∃ s, ofSettings slashedSettings = .ok s ∧
      Argument.require .secretKey "/db//url/" = .ok "db//url" ∧
      Argument.require .transitKey "db/url" = .ok "db/url" ∧
      ∃ q r, (Secrets.Action.write "kv" "/db//url/" "v").call.plan.request? = some q ∧
        (Secrets.Action.read "kv" "db/url").call.plan.request? = some r ∧
        (q.path = r.path ↔ segments "db//url".toList = segments "db/url".toList) := by
  obtain ⟨s, hs⟩ : ∃ s, ofSettings slashedSettings = .ok s := ⟨_, rfl⟩
  have hkey : Argument.require .secretKey "/db//url/" = .ok "db//url" := rfl
  have hkey' : Argument.require .transitKey "db/url" = .ok "db/url" := rfl
  exact ⟨s, hs, hkey, hkey', (path_eq_iff hs hkey hkey').1 (.write "kv" "/db//url/" "v")
    (.read "kv" "db/url") rfl ⟨"kv", rfl⟩ rfl rfl id id⟩

/-- Two keys that are accepted as they stand, and differ, have one path: what is written under the
one is read under the other. -/
theorem act_read_of_double_slash :
    Argument.require .mount "kv" = .ok "kv" ∧
      Argument.require .secretKey "db//url" = .ok "db//url" ∧
      Argument.require .secretKey "db/url" = .ok "db/url" ∧
      Endpoint.secret "kv" "db//url" = Endpoint.secret "kv" "db/url" ∧
      ((ofSettings slashedSettings).map fun s =>
        (s.act Memory.backend (.secret (.read "kv" "db/url"))
          (s.act Memory.backend (.secret (.write "kv" "db//url" "v"))
            (.fresh Memory.empty)).2).1) = .ok (.ok (some "v")) := by
  decide +kernel

end Service
end Strongbox
