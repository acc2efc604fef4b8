import DeploySync.Proofs.Settings.EnvFile
import DeploySync.Settings.Basic
import Mathlib.Data.List.Pairwise
import Mathlib.Tactic.ByContra

/-!
# What the layers of the settings amount to

Where the variables with the common start spell the settings, each at most once, a setting is what
its own variable says, unless that is missing or empty; else what the variable says that spells it;
else its default.

## Main definitions

* `Settings.Setting.spelling` — group and field of a setting as the name of a variable
* `Settings.Orderly` — the variables with the common start spell settings, each at most once
* `Settings.effective?` — what the variables of an environment say about a setting

## Main results

* `Settings.given_layersOf` — what holds for a setting
* `Settings.Layers.Say.text?_eq_said`, `Settings.Layers.Say.ofLayers_error_iff` — to which settings
  layers amount, and when to none
* `Settings.settings_layered` — the settings of a process and its file
-/

namespace DeploySync.Settings

variable {env : Variables} {s t : Setting} {name value : String} {l : Layers}

/-! ### Names of variables -/

namespace Setting

/-- Group and field of a setting as the name of a variable, in lower case. -/
def spelling (s : Setting) : List Char :=
  nameStart ++ s.group.name.toList ++ "__".toList ++ s.field.toList

/-- A variable says something about a setting: it is the setting's own, or it spells the setting. -/
def IsVariable (s : Setting) (name : String) : Prop :=
  name = s.variableName ∨ lowerName name = s.spelling

theorem mem_all (s : Setting) : s ∈ all := by cases s <;> decide

/-- Settings differ in group or field. -/
theorem path_injective (h : s.path = t.path) : s = t := by
  have hall : ∀ s ∈ all, ∀ t ∈ all, s.path = t.path → s = t := by decide +kernel
  exact hall s (mem_all s) t (mem_all t) h

theorem spelling_injective (h : s.spelling = t.spelling) : s = t := by
  have hall : ∀ s ∈ all, ∀ t ∈ all, s.spelling = t.spelling → s = t := by decide +kernel
  exact hall s (mem_all s) t (mem_all t) h

/-- No variable says something about two settings. -/
theorem IsVariable.eq (hs : s.IsVariable name) (ht : t.IsVariable name) : s = t := by
  have hown : ∀ s ∈ all, ∀ t ∈ all, s.variableName = t.variableName → s = t := by decide +kernel
  have hmixed : ∀ s ∈ all, ∀ t ∈ all, lowerName s.variableName ≠ t.spelling := by decide +kernel
  rcases hs with rfl | hs <;> rcases ht with ht | ht
  · exact hown s (mem_all s) t (mem_all t) ht
  · exact absurd ht (hmixed s (mem_all s) t (mem_all t))
  · rw [ht] at hs
    exact absurd hs (hmixed t (mem_all t) s (mem_all s))
  · exact spelling_injective (hs.symm.trans ht)

theorem start_prefix_spelling (s : Setting) : nameStart <+: s.spelling := by
  rw [spelling, List.append_assoc, List.append_assoc]
  exact List.prefix_append _ _

end Setting

theorem stripStart?_eq_some_iff {start text rest : List Char} :
    Text.stripStart? start text = some rest ↔ text = start ++ rest := by
  induction start generalizing text with
  | nil => simp [Text.stripStart?, eq_comm]
  | cons c start ih =>
    cases text with
    | nil => simp [Text.stripStart?]
    | cons d text =>
      rw [Text.stripStart?]
      by_cases hc : c = d
      · rw [if_pos hc, ih, hc]
        simp
      · rw [if_neg hc]
        simp [Ne.symm hc]

/-- A variable without the common start spells nothing. -/
theorem pathOf?_of_not (h : ¬ nameStart <+: lowerName name) : pathOf? name = none := by
  rw [pathOf?]
  cases hrest : Text.stripStart? nameStart (lowerName name) with
  | none => rfl
  | some rest => exact absurd ⟨rest, (stripStart?_eq_some_iff.1 hrest).symm⟩ h

/-- The name that group and field of a setting make spells them. -/
theorem pathOf?_of_spelling (h : lowerName name = s.spelling) : pathOf? name = some s.path := by
  rw [pathOf?, h]
  cases s <;> decide +kernel

/-! ### Environments -/

/-- Every variable with the common start spells a setting, and no two of them spell the same one. -/
structure Orderly (env : Variables) : Prop where
  spelled : ∀ v ∈ env, nameStart <+: lowerName v.1 → ∃ s ∈ Setting.all, lowerName v.1 = s.spelling
  once : env.Pairwise fun v w => nameStart <+: lowerName v.1 → lowerName v.1 ≠ lowerName w.1

/-- What a setting's own variable says, unless that is nothing. -/
def own? (env : Variables) (s : Setting) : Option String :=
  (env.get? s.variableName).filter (! ·.isEmpty)

/-- What the variable says that spells a setting. -/
def spelled? (env : Variables) (s : Setting) : Option String :=
  (env.find? fun v => lowerName v.1 == s.spelling).map (·.2)

/-- What is said about a setting: by its own variable, else by the one that spells it, else by
default. -/
def effective? (env : Variables) (s : Setting) : Option String :=
  (own? env s).or ((spelled? env s).or s.default?)

/-- The first variable that spells a setting has its value in the environment. -/
theorem get?_of_find? {v : String × String}
    (h : env.find? (fun v => lowerName v.1 == s.spelling) = some v) :
    lowerName v.1 = s.spelling ∧ env.get? v.1 = some v.2 := by
  have hspelled : lowerName v.1 = s.spelling := by simpa using List.find?_some h
  refine ⟨hspelled, ?_⟩
  induction env with
  | nil => cases h
  | cons w rest ih =>
    obtain ⟨key, value⟩ := w
    rw [EnvFile.get?_cons]
    rw [List.find?_cons] at h
    split at h
    · cases h
      rw [if_pos rfl]
    · rename_i hkey
      rw [if_neg (by rintro rfl; simp [hspelled] at hkey), ih h]

/-- A setting is spelled by a variable of the environment, in any letter case. -/
theorem spelled?_eq_some_iff (h : Orderly env) :
    spelled? env s = some value ↔
      ∃ name, lowerName name = s.spelling ∧ env.get? name = some value := by
  constructor
  · intro hvalue
    obtain ⟨v, hfind, rfl⟩ := Option.map_eq_some_iff.1 hvalue
    exact ⟨v.1, get?_of_find? hfind⟩
  · rintro ⟨name, hname, hvalue⟩
    have hmem : (name, value) ∈ env := by
      obtain ⟨before, after, rfl, -⟩ := List.lookup_eq_some_iff.1 hvalue
      simp
    cases hfind : env.find? fun v => lowerName v.1 == s.spelling with
    | none => exact absurd hname (by simpa using List.find?_eq_none.1 hfind _ hmem)
    | some v =>
      obtain ⟨hv, -⟩ := get?_of_find? hfind
      -- two different variables would spell the setting
      by_contra hne
      have hdifferent : (name, value) ≠ v := by
        rintro rfl
        exact hne (by rw [spelled?, hfind]; rfl)
      have hsymm : Std.Symm fun v w : String × String =>
          nameStart <+: lowerName v.1 → lowerName v.1 ≠ lowerName w.1 :=
        ⟨fun v w hvw hw heq => hvw (heq ▸ hw) heq.symm⟩
      exact h.once.forall hmem (List.mem_of_find?_eq_some hfind) hdifferent
        (hname ▸ s.start_prefix_spelling) (hname.trans hv.symm)

/-- Said about a setting is a text, or nothing. -/
def Given.ofText? : Option String → Given
  | some value => .text value
  | none => .nothing

/-- Without members below a setting and without a text for its whole group, what holds for it comes
from its own variable, the value at its path, and the default. -/
theorem Layers.given_eq (hmembers : l.membersBelow s.path = []) (hflat : l.flat? s.group = none) :
    l.given s =
      .ofText? (((l.own s).filter (! ·.isEmpty)).or ((l.valueAt s.path).or s.default?)) := by
  rw [given, hmembers, hflat]
  cases (l.own s).filter (! ·.isEmpty) with
  | some value => rfl
  | none =>
    cases l.valueAt s.path with
    | some value => rfl
    | none => cases s.default? <;> rfl

/-- Every path of an orderly environment is that of a setting. -/
theorem Orderly.exists_path (h : Orderly env) {entry : List String × String}
    (hentry : entry ∈ (layersOf env).named) : ∃ t : Setting, entry.1 = t.path := by
  obtain ⟨⟨name, value⟩, hv, hnamed⟩ := List.mem_filterMap.1 hentry
  obtain ⟨path, hpath, rfl⟩ := Option.map_eq_some_iff.1 hnamed
  by_cases hstart : nameStart <+: lowerName name
  · obtain ⟨t, -, ht⟩ := h.spelled _ hv hstart
    exact ⟨t, Option.some.inj (hpath.symm.trans (pathOf?_of_spelling ht))⟩
  · rw [pathOf?_of_not hstart] at hpath
    cases hpath

/-- So that nothing is said about a whole group, -/
theorem Orderly.flat?_eq_none (h : Orderly env) (g : Group) : (layersOf env).flat? g = none := by
  rw [Layers.flat?, Layers.valueAt, List.lookup_eq_none_iff]
  intro entry hentry
  obtain ⟨t, ht⟩ := h.exists_path hentry
  simp [ht, Setting.path]

/-- nor about members below a setting. -/
theorem Orderly.membersBelow_eq_nil (h : Orderly env) (s : Setting) :
    (layersOf env).membersBelow s.path = [] := by
  rw [Layers.membersBelow, List.filterMap_eq_nil_iff]
  intro entry hentry
  obtain ⟨t, ht⟩ := h.exists_path hentry
  simp [ht, Setting.path]

/-- What stands at the path of a setting is what the variable says that spells it. -/
theorem Orderly.valueAt_path
    (h : ∀ v ∈ env, nameStart <+: lowerName v.1 → ∃ s ∈ Setting.all, lowerName v.1 = s.spelling)
    (s : Setting) : (layersOf env).valueAt s.path = spelled? env s := by
  induction env with
  | nil => rfl
  | cons v rest ih =>
    obtain ⟨name, value⟩ := v
    obtain ⟨hname, hrest⟩ := List.forall_mem_cons.1 h
    have hih := ih hrest
    rw [Layers.valueAt, layersOf, spelled?] at hih ⊢
    dsimp only at hih hname ⊢
    -- The first variable that spells a setting is the first one at its path, too.
    by_cases hstart : nameStart <+: lowerName name
    · obtain ⟨t, -, ht⟩ := hname hstart
      rw [List.filterMap_cons, pathOf?_of_spelling ht, Option.map_some, List.find?_cons, ht]
      dsimp only
      rw [List.lookup_cons]
      by_cases hst : s = t
      · simp [hst]
      · rw [beq_false_of_ne fun heq => hst (Setting.path_injective heq),
          beq_false_of_ne fun heq => hst (Setting.spelling_injective heq).symm]
        exact hih
    · have hnot : lowerName name ≠ s.spelling := fun heq => hstart (heq ▸ s.start_prefix_spelling)
      rw [List.filterMap_cons, pathOf?_of_not hstart, Option.map_none, List.find?_cons,
        beq_false_of_ne hnot]
      exact hih

/-- What holds for a setting in an orderly environment is what its variables say. -/
theorem given_layersOf (h : Orderly env) (s : Setting) :
    (layersOf env).given s = .ofText? (effective? env s) := by
  rw [Layers.given_eq (h.membersBelow_eq_nil s) (h.flat?_eq_none s.group),
    Orderly.valueAt_path h.spelled]
  rfl

/-- Where the settings' own variables are all that counts, they and the defaults hold. -/
theorem given_ownLayers (env : Variables) (s : Setting) :
    (ownLayers env).given s = .ofText? ((own? env s).or s.default?) :=
  Layers.given_eq rfl rfl

/-! ### Settings -/

/-- The settings that are said, with the two that are names. -/
def ofSaid (said : Setting → Option String) (backend : Backend) (storageClass : StorageClass) :
    Settings where
  backend := backend
  bucket := (said .bucket).getD ""
  project := (said .project).getD ""
  region := (said .region).getD ""
  zone := (said .zone).getD ""
  storageClass := storageClass
  endpoint := (said .endpoint).getD ""
  accessToken := said .accessToken
  directoryRoot := (said .directoryRoot).map Path.mk
  listingBase := (said .listingBase).getD ""
  suffix := (said .suffix).getD ""
  distro := said .distro
  arch := said .arch
  version := said .version
  envDir := (said .envDir).map Path.mk
  commonVars := (said .commonVars).map Path.mk
  provisioningTool := (said .provisioningTool).getD ""

/-- Layers say texts about settings, or nothing, but something wherever there is a default. -/
structure Layers.Say (l : Layers) (said : Setting → Option String) : Prop where
  flat : ∀ g, l.flat? g = none
  given : ∀ s, l.given s = .ofText? (said s)
  default : ∀ s : Setting, s.default?.isSome → (said s).isSome

namespace Layers.Say

variable {said : Setting → Option String}

theorem text?_eq (h : l.Say said) (s : Setting) : l.text? s = .ok (said s) := by
  rw [Layers.text?, h.given]
  cases said s <;> rfl

theorem text_eq (h : l.Say said) (s : Setting) (hs : s.default?.isSome) :
    l.text s = .ok ((said s).getD "") := by
  obtain ⟨value, hvalue⟩ := Option.isSome_iff_exists.1 (h.default s hs)
  rw [Layers.text, h.text?_eq, hvalue]
  rfl

/-- A setting that is a name is read exactly if the text is a name. -/
theorem name_eq_ok_iff {α : Type} {type : String} {ofName? : String → Option α} {a : α}
    (h : l.Say said) (s : Setting) :
    l.name s type ofName? = .ok a ↔ (said s).bind ofName? = some a := by
  rw [Layers.name, h.given]
  cases said s with
  | none => simp [Given.ofText?]
  | some value =>
    dsimp only [Given.ofText?, Option.bind_some]
    cases ofName? value <;> simp

theorem noFault (h : l.Say said) : Group.all.filterMap l.flatFault? = [] := by
  simp [List.filterMap_eq_nil_iff, Layers.flatFault?, h.flat]

/-- Only the two settings that are names can fail. -/
theorem ofLayers_eq (h : l.Say said) :
    ofLayers l =
      (l.name .backend "StorageBackend" Backend.ofName?).bind fun backend =>
        (l.name .storageClass "StorageClass" StorageClass.ofName?).bind fun storageClass =>
          .ok (ofSaid said backend storageClass) := by
  rw [ofLayers, h.noFault]
  simp only [h.text_eq .bucket rfl, h.text_eq .project rfl, h.text_eq .region rfl,
    h.text_eq .zone rfl, h.text_eq .endpoint rfl, h.text_eq .listingBase rfl,
    h.text_eq .suffix rfl, h.text_eq .provisioningTool rfl, h.text?_eq]
  rfl

/-- Settings that are read are those that are said, with names read from what is said. -/
theorem exists_of_ofLayers (h : l.Say said) {c : Settings} (hc : ofLayers l = .ok c) :
    ∃ backend storageClass, (said .backend).bind Backend.ofName? = some backend ∧
      (said .storageClass).bind StorageClass.ofName? = some storageClass ∧
      c = ofSaid said backend storageClass := by
  rw [h.ofLayers_eq] at hc
  cases hbackend : l.name .backend "StorageBackend" Backend.ofName? with
  | error e =>
    rw [hbackend] at hc
    cases hc
  | ok backend =>
    cases hclass : l.name .storageClass "StorageClass" StorageClass.ofName? with
    | error e =>
      rw [hbackend, hclass] at hc
      cases hc
    | ok storageClass =>
      rw [hbackend, hclass] at hc
      exact ⟨backend, storageClass, (h.name_eq_ok_iff _).1 hbackend, (h.name_eq_ok_iff _).1 hclass,
        (Except.ok.inj hc).symm⟩

/-- The settings are what is said about them. -/
theorem text?_eq_said (h : l.Say said) {c : Settings} (hc : ofLayers l = .ok c) (s : Setting) :
    c.text? s = said s := by
  obtain ⟨backend, storageClass, hbackend, hclass, rfl⟩ := h.exists_of_ofLayers hc
  have hsaid (s : Setting) (hs : s.default?.isSome) : some ((said s).getD "") = said s := by
    obtain ⟨value, hvalue⟩ := Option.isSome_iff_exists.1 (h.default s hs)
    rw [hvalue, Option.getD_some]
  have hpath (s : Setting) : ((said s).map Path.mk).map (·.text) = said s := by
    cases said s <;> rfl
  -- A name was read from its own text; texts and paths are kept as they are.
  cases s with
  | backend =>
    obtain ⟨value, hvalue, hname⟩ := Option.bind_eq_some_iff.1 hbackend
    have hsame : backend.name = value := by simpa using List.find?_some hname
    rw [hvalue, ← hsame]
    rfl
  | storageClass =>
    obtain ⟨value, hvalue, hname⟩ := Option.bind_eq_some_iff.1 hclass
    have hsame : storageClass.name = value := by simpa using List.find?_some hname
    rw [hvalue, ← hsame]
    rfl
  | accessToken => rfl
  | distro => rfl
  | arch => rfl
  | version => rfl
  | directoryRoot => exact hpath _
  | envDir => exact hpath _
  | commonVars => exact hpath _
  | bucket => exact hsaid _ rfl
  | project => exact hsaid _ rfl
  | region => exact hsaid _ rfl
  | zone => exact hsaid _ rfl
  | endpoint => exact hsaid _ rfl
  | listingBase => exact hsaid _ rfl
  | suffix => exact hsaid _ rfl
  | provisioningTool => exact hsaid _ rfl

/-- There are no settings exactly if what is said about the store or about the storage class is no
name of one. -/
theorem ofLayers_error_iff (h : l.Say said) :
    (∃ e, ofLayers l = .error e) ↔
      (said .backend).bind Backend.ofName? = none ∨
        (said .storageClass).bind StorageClass.ofName? = none := by
  have hbackend (a : Backend) : l.name .backend "StorageBackend" Backend.ofName? = .ok a ↔
      (said .backend).bind Backend.ofName? = some a := h.name_eq_ok_iff .backend
  have hclass (a : StorageClass) :
      l.name .storageClass "StorageClass" StorageClass.ofName? = .ok a ↔
        (said .storageClass).bind StorageClass.ofName? = some a := h.name_eq_ok_iff .storageClass
  rw [h.ofLayers_eq, Option.eq_none_iff_forall_ne_some, Option.eq_none_iff_forall_ne_some]
  simp only [ne_eq, ← hbackend, ← hclass]
  cases l.name .backend "StorageBackend" Backend.ofName? with
  | error e => simp [Except.bind]
  | ok backend =>
    cases l.name .storageClass "StorageClass" StorageClass.ofName? with
    | error e => simp [Except.bind]
    | ok storageClass => simp [Except.bind]

end Layers.Say

/-- The layers of an orderly environment say what its variables say. -/
theorem Orderly.say (h : Orderly env) : (layersOf env).Say (effective? env) where
  flat := h.flat?_eq_none
  given := given_layersOf h
  default s hs := by simp [effective?, hs]

/-- So do the layers in which only the settings' own variables count. -/
theorem say_ownLayers (env : Variables) :
    (ownLayers env).Say fun s => (own? env s).or s.default? where
  flat _ := rfl
  given := given_ownLayers env
  default s hs := by simp [hs]

theorem load_eq_ok_iff {c : Settings} : load env = .ok c ↔ ofLayers (layersOf env) = .ok c := by
  rw [load]
  cases ofLayers (layersOf env) <;> simp

theorem load_error_iff : (∃ e, load env = .error e) ↔ ∃ e, ofLayers (layersOf env) = .error e := by
  rw [load]
  cases ofLayers (layersOf env) <;> simp

theorem ofOwnVariables_eq_ok_iff {c : Settings} :
    ofOwnVariables env = .ok c ↔ ofLayers (ownLayers env) = .ok c := by
  rw [ofOwnVariables]
  cases ofLayers (ownLayers env) <;> simp

theorem ofOwnVariables_error_iff :
    (∃ e, ofOwnVariables env = .error e) ↔ ∃ e, ofLayers (ownLayers env) = .error e := by
  rw [ofOwnVariables]
  cases ofLayers (ownLayers env) <;> simp

/-- What is said about a setting depends on its own variables. -/
theorem effective?_congr {env' : Variables} (h : Orderly env) (h' : Orderly env')
    (hsame : ∀ name, s.IsVariable name → env.get? name = env'.get? name) :
    effective? env s = effective? env' s := by
  have hspelled : spelled? env s = spelled? env' s := by
    ext value
    rw [spelled?_eq_some_iff h, spelled?_eq_some_iff h']
    refine exists_congr fun name => and_congr_right fun hname => ?_
    rw [hsame name (Or.inr hname)]
  rw [effective?, effective?, own?, own?, hsame s.variableName (Or.inl rfl), hspelled]

/-- Each of the settings comes from one of four layers. A variable is what the process sets it to,
even to nothing, and else what the file assigns to it first. In an orderly environment a setting is
what its own variable says, unless that is nothing; else what the variable says that spells it in
any letter case, even if that is nothing; else its default. The settings load unless what is said
about the store or the storage class is no name of one, and the variables of one setting do not
change another setting. Where only the settings' own variables count, the same holds without the
variables that spell settings. -/
theorem settings_layered (vars : Variables) (f : Files) :
    let env := EnvFile.loadOn vars f
    (∀ name, env.get? name =
      (vars.get? name).or ((EnvFile.assignmentsOf vars (EnvFile.contentOn f)).get? name)) ∧
    (Orderly env →
      (∀ s value, spelled? env s = some value ↔
        ∃ name, lowerName name = s.spelling ∧ env.get? name = some value) ∧
      (∀ c, load env = .ok c →
        ∀ s, c.text? s = (own? env s).or ((spelled? env s).or s.default?)) ∧
      ((∃ e, load env = .error e) ↔
        (effective? env .backend).bind Backend.ofName? = none ∨
          (effective? env .storageClass).bind StorageClass.ofName? = none) ∧
      ∀ env', Orderly env' → ∀ t : Setting,
        (∀ name, ¬ t.IsVariable name → env.get? name = env'.get? name) →
        ∀ c c', load env = .ok c → load env' = .ok c' → ∀ s, s ≠ t → c.text? s = c'.text? s) ∧
    (∀ c, ofOwnVariables vars = .ok c → ∀ s, c.text? s = (own? vars s).or s.default?) ∧
    ((∃ e, ofOwnVariables vars = .error e) ↔
      ((own? vars .backend).or Setting.backend.default?).bind Backend.ofName? = none ∨
        ((own? vars .storageClass).or Setting.storageClass.default?).bind StorageClass.ofName? =
          none) := by
  intro env
  refine ⟨fun name => ?_, fun h => ⟨fun s value => spelled?_eq_some_iff h, fun c hc s => ?_, ?_,
    fun env' h' t hsame c c' hc hc' s hne => ?_⟩, fun c hc s => ?_, ?_⟩
  · rw [← EnvFile.get?_addTo, ← EnvFile.loadOn_eq]
  · exact h.say.text?_eq_said (load_eq_ok_iff.1 hc) s
  · exact load_error_iff.trans h.say.ofLayers_error_iff
  · rw [h.say.text?_eq_said (load_eq_ok_iff.1 hc) s, h'.say.text?_eq_said (load_eq_ok_iff.1 hc') s]
    exact effective?_congr h h' fun name hs => hsame name fun ht => hne (hs.eq ht)
  · exact (say_ownLayers vars).text?_eq_said (ofOwnVariables_eq_ok_iff.1 hc) s
  · exact ofOwnVariables_error_iff.trans (say_ownLayers vars).ofLayers_error_iff

/-- Variables of a process, two of which are empty. -/
def sampleVariables : Variables :=
  [("BUCKET_NAME", ""), ("Workspace_Vars__Storage__Bucket_Name", "spelled"), ("REGION", "")]

/-- A file that assigns both of these, and one more. -/
def sampleFiles : Files where
  root := .directory
    [(".env", .file (Bytes.ofText "REGION=eu\nexport BUCKET_NAME='hidden'\nZONE=${REGION}a # b\n"))]

/-- Empty variables of the process hide those of the file, but not what spells their settings. -/
theorem settings_layered_sample :
    let env := EnvFile.loadOn sampleVariables sampleFiles
    Orderly env ∧ ∃ c, load env = .ok c ∧ c.text? .bucket = some "spelled" ∧
      c.text? .region = some "me-west1" ∧ c.text? .zone = some "a" := by
  have henv : EnvFile.loadOn sampleVariables sampleFiles = sampleVariables ++ [("ZONE", "a")] := by
    decide +kernel
  obtain ⟨-, hlayers, -⟩ := settings_layered sampleVariables sampleFiles
  rw [henv] at hlayers ⊢
  intro env
  have horderly : Orderly env := ⟨by decide +kernel, by decide +kernel⟩
  obtain ⟨-, hsaid, hfails, -⟩ := hlayers horderly
  have hnames : ¬ ((effective? env .backend).bind Backend.ofName? = none ∨
      (effective? env .storageClass).bind StorageClass.ofName? = none) := by decide +kernel
  cases hload : load env with
  | error e => exact absurd (hfails.1 ⟨e, hload⟩) hnames
  | ok c =>
    refine ⟨horderly, c, rfl, ?_, ?_, ?_⟩
    · rw [hsaid c hload]
      decide +kernel
    · rw [hsaid c hload]
      decide +kernel
    · rw [hsaid c hload]
      decide +kernel

end DeploySync.Settings
