/-
What it takes for settings to make a configuration.

* `toConfig_eq_ok` — every check that a configuration has passed, and what it is made of;
* `checkTransitMount_eq_ok` — the transit mounts that are accepted, and as what;
* `accepted_transitMount` — its transit mount is a name that can be used as it stands, with
  the segments of the mount that was set;
* `toConfig_of_ofSettings` — the configuration of a service is one that settings make.
-/
import Strongbox.Service
import Strongbox.Proofs.Paths
import Strongbox.Proofs.Results

namespace Strongbox.Settings

/-- The configuration of settings whose address, credential and transit mount are known. -/
def configWith (s : Settings) (credential : Credential) (transitMount : String) : Config where
  address := String.ofList s.trimmedAddress
  credential := credential
  nameSpace := s.nameSpace.filter fun n => !Text.isBlank n
  engine := s.engine
  transitMount := transitMount
  timeoutMillis := s.timeoutMillis
  userAgentSuffix := s.userAgentSuffix
  certificate := s.certificate
  telemetry := .off
  allowRemoteHttp := false

/-- The checks that settings have passed if they make a configuration, and the configuration. -/
theorem toConfig_eq_ok {s : Settings} {c : Config} (h : s.toConfig = .ok c) :
    ∃ u credential mount, parseAddress s.trimmedAddress = .ok u ∧ checkUrl u = .ok () ∧
      s.credential = some credential ∧ checkTransitMount s.transitMount = .ok mount ∧
      c = s.configWith credential mount := by
  -- the checks, in the order in which they are made
  rw [toConfig] at h
  obtain ⟨u, hu, h⟩ := Results.bind_eq_ok.1 h
  obtain ⟨_, hc, h⟩ := Results.bind_eq_ok.1 h
  split at h
  · exact absurd h (by simp)
  · next credential hcred =>
    obtain ⟨mount, hm, h⟩ := Results.bind_eq_ok.1 h
    exact ⟨u, credential, mount, hu, hc, hcred, hm, (Except.ok.inj h).symm⟩

theorem parse_of_parseAddress {address : List Char} {u : Url}
    (h : parseAddress address = .ok u) : Url.parse address = .ok u :=
  Results.mapError_eq_ok.1 h

/-- A transit mount is accepted if something is left of it without the slashes at its ends, and
that has no dot segment. -/
theorem checkTransitMount_eq_ok {mount t : String} :
    checkTransitMount mount = .ok t ↔ Text.trimSlashes mount.toList = t.toList ∧
      t.toList ≠ [] ∧ Argument.hasDotSegment t.toList = false := by
  simp only [checkTransitMount]
  constructor
  · intro h
    split at h
    · exact absurd h (by simp)
    · next hempty =>
      split at h
      · exact absurd h (by simp)
      · next hdot =>
        rw [← Except.ok.inj h, String.toList_ofList]
        exact ⟨rfl, by simpa using hempty, by simpa using hdot⟩
  · rintro ⟨ht, hne, hdot⟩
    rw [ht, if_neg (by simpa using hne), hdot, if_neg Bool.false_ne_true, String.ofList_toList]

/-- An accepted transit mount can be used as it stands, and has the segments of the text that
was given. -/
theorem accepted_of_checkTransitMount {mount t : String} (h : checkTransitMount mount = .ok t) :
    Argument.Accepted t ∧ Endpoint.segments t.toList = Endpoint.segments mount.toList := by
  obtain ⟨ht, hne, hdot⟩ := checkTransitMount_eq_ok.1 h
  have hsegments : Endpoint.segments t.toList = Endpoint.segments mount.toList := by
    rw [← ht, Endpoint.segments_trimSlashes]
  refine ⟨⟨fun hnil => ?_, hdot⟩, hsegments⟩
  -- without segments the mount is all slashes, and nothing of it is left
  have hall : ∀ c ∈ mount.toList, (c == '/') = true := fun c hc => by
    simpa using Endpoint.segments_eq_nil_iff.1 (hsegments ▸ hnil) c hc
  have hdrop : mount.toList.dropWhile (· == '/') = [] := List.dropWhile_eq_nil_iff.2 hall
  rw [Text.trimSlashes, Text.trimBoth, hdrop] at ht
  exact hne ht.symm

theorem accepted_transitMount {s : Settings} {c : Config} (h : s.toConfig = .ok c) :
    Argument.Accepted c.transitMount ∧
      Endpoint.segments c.transitMount.toList = Endpoint.segments s.transitMount.toList := by
  obtain ⟨_, _, mount, _, _, _, hmount, rfl⟩ := toConfig_eq_ok h
  exact accepted_of_checkTransitMount hmount

end Strongbox.Settings

namespace Strongbox.Service

/-- A service has the configuration that it was made of. -/
theorem config_of_new {c : Config} {s : Service} (h : new c = .ok s) : s.config = c := by
  rw [new] at h
  split at h
  · rw [← Except.ok.inj h]
  · exact absurd h (by simp)

/-- The configuration of a service is one that its settings make. -/
theorem toConfig_of_ofSettings {settings : Settings} {s : Service}
    (h : ofSettings settings = .ok s) : settings.toConfig = .ok s.config := by
  rw [ofSettings] at h
  split at h
  · next c hc => rw [hc, config_of_new h]
  · exact absurd h (by simp)

end Strongbox.Service
