import DeploySync.Proofs.Json.Reading
import DeploySync.Settings.Basic

/-!
# Settings as they are shown

## Main definitions

* `Settings.withoutToken` — the settings without the access token

## Main results

* `Settings.parse?_display` — what is shown is read back
* `Settings.member?_toJson` — each setting but the access token stands in its place
* `Settings.display_eq_iff` — what is shown is the same exactly for settings that differ in the
  access token at most
-/

namespace DeploySync.Settings

variable {c c' : Settings}

/-- The settings without the access token. -/
def withoutToken (c : Settings) : Settings := { c with accessToken := none }

/-- A setting that is not the access token does not depend on it. -/
theorem text?_withoutToken (c : Settings) {x : Setting} (hx : x ≠ .accessToken) :
    c.withoutToken.text? x = c.text? x := by
  cases x <;> first | rfl | exact absurd rfl hx

theorem text?_withoutToken_accessToken (c : Settings) :
    c.withoutToken.text? .accessToken = none := rfl

/-- Settings with the same texts are the same. -/
theorem eq_of_text? (h : ∀ x, c.text? x = c'.text? x) : c = c' := by
  have hbackend : c.backend = c'.backend := by
    rw [← Option.some_inj, ← Backend.ofName?_name, Option.some.inj (h .backend),
      Backend.ofName?_name]
  have hclass : c.storageClass = c'.storageClass := by
    rw [← Option.some_inj, ← StorageClass.ofName?_name, Option.some.inj (h .storageClass),
      StorageClass.ofName?_name]
  have hpath {p q : Option Path} (hpq : p.map (·.text) = q.map (·.text)) : p = q :=
    Option.map_injective (fun _ _ => congrArg Path.mk) hpq
  cases c
  cases c'
  rw [mk.injEq]
  exact ⟨hbackend, Option.some.inj (h .bucket), Option.some.inj (h .project),
    Option.some.inj (h .region), Option.some.inj (h .zone), hclass, Option.some.inj (h .endpoint),
    h .accessToken, hpath (h .directoryRoot), Option.some.inj (h .listingBase),
    Option.some.inj (h .suffix), h .distro, h .arch, h .version, hpath (h .envDir),
    hpath (h .commonVars), Option.some.inj (h .provisioningTool)⟩

theorem withoutToken_eq_iff :
    c.withoutToken = c'.withoutToken ↔ ∀ x ≠ .accessToken, c.text? x = c'.text? x := by
  constructor
  · intro h x hx
    rw [← text?_withoutToken c hx, h, text?_withoutToken c' hx]
  · intro h
    refine eq_of_text? fun x => ?_
    by_cases hx : x = .accessToken
    · rw [hx, text?_withoutToken_accessToken, text?_withoutToken_accessToken]
    · rw [text?_withoutToken c hx, text?_withoutToken c' hx, h x hx]

/-! ### JSON -/

theorem ofText?_injective {s t : Option String} (h : Json.Value.ofText? s = .ofText? t) :
    s = t := by
  cases s with
  | none =>
    cases t with
    | none => rfl
    | some t => exact nomatch h
  | some s =>
    cases t with
    | none => exact nomatch h
    | some t => exact congrArg some (Json.Value.string.inj h)

theorem readable_ofText? (s : Option String) (depth : Nat) :
    (Json.Value.ofText? s).Readable (depth + 1) := by
  cases s with
  | none => exact .null
  | some s => exact .string s

/-- The settings have no numbers, and are in groups. -/
theorem readable_toJson (c : Settings) : c.toJson.Readable Json.maxDepth := by
  refine .object fun m hm => ?_
  obtain ⟨g, -, rfl⟩ := List.mem_map.1 hm
  refine .object fun m hm => ?_
  obtain ⟨x, -, rfl⟩ := List.mem_map.1 hm
  exact readable_ofText? (c.text? x) _

/-- The settings that are shown are read back. -/
theorem parse?_display (c : Settings) : Json.parse? c.display = some c.toJson :=
  Json.parse?_pretty (readable_toJson c) 0

/-- Each setting stands under its field in its group, and the access token does not. -/
theorem member?_toJson (c : Settings) (x : Setting) :
    (c.toJson.member? x.group.name).bind (·.member? x.field) =
      if x = .accessToken then none else some (.ofText? (c.text? x)) := by
  cases x <;> rfl

/-- The same is shown of settings exactly if they differ in the access token at most. -/
theorem display_eq_iff : c.display = c'.display ↔ c.withoutToken = c'.withoutToken := by
  rw [withoutToken_eq_iff]
  constructor
  · intro h x hx
    -- what is shown is read back, and each setting stands in its place there
    have hjson : c.toJson = c'.toJson := by
      rw [← Option.some_inj, ← parse?_display, h, parse?_display]
    have hmember := member?_toJson c x
    rw [hjson, member?_toJson, if_neg hx, if_neg hx, Option.some_inj] at hmember
    exact (ofText?_injective hmember).symm
  · intro h
    -- the access token is in no group
    have hgroup (g : Group) : c.groupMembers g = c'.groupMembers g := by
      refine List.map_congr_left fun x hx => ?_
      obtain ⟨-, hx⟩ := List.mem_filter.1 hx
      rw [h x (by simpa using (Bool.and_eq_true_iff.1 hx).2)]
    rw [display, display, toJson, toJson, funext hgroup]

end DeploySync.Settings
