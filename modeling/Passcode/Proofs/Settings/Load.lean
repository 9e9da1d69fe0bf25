import Passcode.Proofs.Settings.App
import Passcode.Proofs.Toml.Distinct
import Passcode.Settings.Load

/-!
# What the settings of a deployment come from

Each scalar of the settings comes from the highest layer that has something in its place: the
override variables, else the configuration file, else the plain variables. The password of the relay
comes from the plain variables also where what is above them is empty. Nothing else that the layers
have counts.

This is said of layers that have scalars in the places of the scalars, and nothing but tables on the
way to them. An override below the place of a scalar would make a table of it, and one with an index
would make an array of a section.

## Main definitions

* `App.leaves` — the scalars of the settings of a deployment
* `FitsSettings` — an entry of a layer has scalars in the places of scalars
* `Loads` — settings that come from given layers

## Main statements

* `load_eq_ok_iff` — which settings are loaded
* `load_congr` — what the loading of settings depends on
* `load_reads_highest_layer` — both, and the case of no layers above the variables
-/

namespace Passcode.Settings

open Layers (Value given? entryValue)

/-! ## The scalars of the settings -/

/-- The scalars that the settings of a deployment consist of. -/
def App.leaves : List (Leaf App) := [
  ⟨["environment"], false, fun s => s.environment⟩,
  ⟨["server", "host"], false, fun s => s.server.host⟩,
  ⟨["server", "port"], false, fun s => s.server.port⟩,
  ⟨["server", "workers"], false, fun s => s.server.workers⟩,
  ⟨["server", "keep_alive"], false, fun s => s.server.keepAlive⟩,
  ⟨["server", "max_payload_size"], false, fun s => s.server.maxPayloadSize⟩,
  ⟨["cache", "url"], false, fun s => s.cache.url⟩,
  ⟨["cache", "connection_timeout"], false, fun s => s.cache.connectionTimeout⟩,
  ⟨["cache", "max_retries"], false, fun s => s.cache.maxRetries⟩,
  ⟨["cache", "retry_delay_ms"], false, fun s => s.cache.retryDelayMs⟩,
  ⟨["cache", "use_memory"], false, fun s => s.cache.useMemory⟩,
  ⟨["cache", "memory", "cleanup_interval"], false, fun s => s.cache.memory.cleanupInterval⟩,
  ⟨["email", "provider"], false, fun s => s.email.provider⟩,
  ⟨["email", "smtp_host"], false, fun s => s.email.smtpHost⟩,
  ⟨["email", "smtp_port"], false, fun s => s.email.smtpPort⟩,
  ⟨["email", "username"], false, fun s => s.email.username⟩,
  ⟨["email", "password"], true, fun s => s.email.password⟩,
  ⟨["email", "from_email"], false, fun s => s.email.fromEmail⟩,
  ⟨["email", "from_name"], false, fun s => s.email.fromName⟩,
  ⟨["email", "starttls"], false, fun s => s.email.starttls⟩,
  ⟨["email", "timeout_secs"], false, fun s => s.email.timeoutSecs⟩,
  ⟨["verification", "variant"], false, fun s => s.verification.variant⟩,
  ⟨["verification", "code_prefix"], false, fun s => s.verification.codePrefix⟩,
  ⟨["verification", "code_ttl_seconds"], false, fun s => s.verification.codeLifetime⟩,
  ⟨["verification", "product_name"], false, fun s => s.verification.productName⟩,
  ⟨["verification", "subject"], false, fun s => s.verification.subject⟩,
  ⟨["logging", "level"], false, fun s => s.logging.level⟩,
  ⟨["logging", "format"], false, fun s => s.logging.format⟩,
  ⟨["logging", "colored"], false, fun s => s.logging.colored⟩,
  ⟨["logging", "source_location"], false, fun s => s.logging.sourceLocation⟩]

theorem App.leaves_eq : (Leafy.leaves : List (Leaf App)) = leaves := rfl

/-- The place of the password of the relay. -/
def passwordPath : List String := ["email", "password"]

/-- The leaf of the password of the relay. -/
def passwordLeaf : Leaf App := ⟨passwordPath, true, fun s => s.email.password⟩

theorem passwordLeaf_mem : passwordLeaf ∈ App.leaves := List.mem_of_getElem? (i := 16) rfl

/-- The password is the only secret. -/
theorem path_eq_iff_secret : ∀ l ∈ App.leaves, l.path = passwordPath ↔ l.secret = true := by decide

theorem get_replacePassword : ∀ l ∈ App.leaves, l.path ≠ passwordPath →
    ∀ (s : App) (password : String), l.get (s.replacePassword password) = l.get s := by
  simp [App.leaves, passwordPath, App.replacePassword]

theorem eq_passwordLeaf : ∀ l ∈ App.leaves, l.path = passwordPath → l = passwordLeaf := by
  simp [App.leaves, passwordPath, passwordLeaf]

/-- Every place of a scalar is in a table. -/
theorem exists_path_eq_cons : ∀ l ∈ App.leaves, ∃ key path, l.path = key :: path := by
  simp [App.leaves]

/-! ## The settings of the plain variables as a layer -/

theorem exists_natLayer_iff {n : Nat} :
    (∃ w, natLayer n = .ok w) ↔ (n : Int) ≤ Layers.maxInt := by
  unfold natLayer
  split
  · next h => exact iff_of_true ⟨_, rfl⟩ h
  · next h => exact iff_of_false (fun ⟨_, hw⟩ => absurd hw nofun) h

/-- The settings of the plain variables fit a layer if the number of workers does. -/
theorem exists_toLayer_app_iff (env : Variables) :
    (∃ first, Setting.toLayer env.app = .ok first)
      ↔ (env.app.server.workers.toNat : Int) ≤ Layers.maxInt := by
  constructor
  · rintro ⟨first, hfirst⟩
    have hmem : (⟨["server", "workers"], false, fun s => s.server.workers⟩ : Leaf App)
        ∈ App.leaves := List.mem_of_getElem? (i := 3) rfl
    obtain ⟨w, hw, -⟩ := (Leafy.written hfirst).shown _ hmem rfl
    exact exists_natLayer_iff.1 ⟨w, hw⟩
  · intro hworkers
    have hport (n : UInt16) : (n.toNat : Int) ≤ Layers.maxInt := by
      have hn := n.toNat_lt
      have hmax : Layers.maxInt = 2 ^ 63 - 1 := by decide
      omega
    refine Leafy.exists_toLayer ?_
    rw [App.leaves_eq]
    simp only [App.leaves, List.mem_cons, List.not_mem_nil, or_false, forall_eq_or_imp,
      Setting.toLayer, Except.ok.injEq, exists_eq', imp_self, exists_natLayer_iff, forall_const,
      Bool.true_eq_false, implies_true, forall_eq, and_self, and_true, true_and]
    -- The other numbers are the defaults.
    exact ⟨hport _, hworkers, (by decide : ((75 : UInt64).toNat : Int) ≤ Layers.maxInt),
      (by decide : ((16384 : UInt64).toNat : Int) ≤ Layers.maxInt),
      (by decide : ((5 : UInt64).toNat : Int) ≤ Layers.maxInt),
      (by decide : ((3 : UInt32).toNat : Int) ≤ Layers.maxInt),
      (by decide : ((100 : UInt64).toNat : Int) ≤ Layers.maxInt),
      (by decide : ((60 : UInt64).toNat : Int) ≤ Layers.maxInt), hport _,
      (by decide : ((30 : UInt64).toNat : Int) ≤ Layers.maxInt)⟩

/-! ## The layers over one another -/

/-- An entry of a layer has a scalar in the place of each scalar, or nothing, and tables on the way
there. -/
def FitsSettings (entry : String × Value) : Prop :=
  ∀ l ∈ App.leaves, (entryValue entry).fits l.path = true

instance (entry : String × Value) : Decidable (FitsSettings entry) :=
  inferInstanceAs (Decidable (∀ l ∈ App.leaves, _))

example : FitsSettings ("server.colour", .text "red") ∧ FitsSettings ("server.port", .text "1")
    ∧ ¬FitsSettings ("server.port.x", .text "1") := by decide +kernel

/-- What the override variables have at a path, or else the file. -/
def overlaid? (file upper : List (String × Value)) (path : List String) : Option Value :=
  (given? upper path).or (given? file path)

/-- The layers over one another. -/
def merged (first : Value) (file upper : List (String × Value)) : Value :=
  ((Value.empty.overlay first.entries).overlay file).overlay upper

theorem distinct_fileLayer {files : Files} {environment : Environment}
    {file : List (String × Value)} (h : fileLayer files environment = .ok file) :
    ∀ entry ∈ file, entry.2.Distinct := by
  unfold fileLayer at h
  split at h
  · cases h
    exact fun _ hentry => absurd hentry List.not_mem_nil
  · split at h
    · next hread =>
      cases h
      exact Toml.distinct_read hread
    · cases h

theorem distinct_overrides (env : Variables) : ∀ entry ∈ overrides env, entry.2.Distinct := by
  intro entry hentry
  obtain ⟨⟨name, text?⟩, -, h⟩ := List.mem_filterMap.1 hentry
  obtain ⟨path, -, h⟩ := Option.bind_eq_some_iff.1 h
  obtain ⟨text, -, h⟩ := Option.bind_eq_some_iff.1 h
  obtain rfl := Option.some.inj h
  trivial

/-- The groups of settings have plain names. -/
theorem stepsOf_name : ∀ name ∈ (Group.shown App).map Part.name,
    Layers.stepsOf name = [.key name] := by decide +kernel

section Merged

variable {base : App} {first : Value} {file upper : List (String × Value)}

/-- Written settings laid over nothing have in the place of a scalar what they have there. -/
theorem at?_overlay_entries (hfirst : Setting.toLayer base = .ok first) {l : Leaf App}
    (hl : l ∈ App.leaves) : (Value.empty.overlay first.entries).at? l.path = first.at? l.path := by
  have hwritten := Leafy.written hfirst
  obtain ⟨entries, hentries, rfl⟩ := Group.toLayer_eq_ok_iff.1 hfirst
  have hnames : ∀ entry ∈ entries, Layers.stepsOf entry.1 = [.key entry.1] := by
    intro entry hentry
    have hw := Group.WrittenEntries.of_layerEntries Group.nodup_shown hentries
    exact stepsOf_name _ (hw.names ▸ List.mem_map_of_mem hentry)
  obtain ⟨key, path, hpath⟩ := exists_path_eq_cons l hl
  have hfit := hwritten.fits l hl
  rw [hpath] at hfit ⊢
  change (Value.empty.overlay entries).at? (key :: path) = _
  rw [Value.overlay_eq_putAll hnames, Value.at?_putAll entries _ key path hwritten.distinct hfit]
  exact Option.or_none

/-- What the layers have in the place of a scalar, if their entries fit there. -/
theorem at?_merged (hfirst : Setting.toLayer base = .ok first)
    (hfile : ∀ entry ∈ file, entry.2.Distinct) (hupper : ∀ entry ∈ upper, entry.2.Distinct)
    {l : Leaf App} (hl : l ∈ App.leaves)
    (hfits : ∀ entry ∈ file ++ upper, (entryValue entry).fits l.path = true) :
    (merged first file upper).at? l.path
      = (overlaid? file upper l.path).or (first.at? l.path) := by
  -- From the uppermost layer down, each layer is asked before the next.
  rw [merged,
    Value.at?_overlay upper _ hupper fun e he => hfits e (List.mem_append_right file he),
    Value.at?_overlay file _ hfile fun e he => hfits e (List.mem_append_left upper he),
    ← Option.or_assoc]
  exact congrArg (Option.or _) (at?_overlay_entries hfirst hl)

variable (hfirst : Setting.toLayer base = .ok first)
  (hat : ∀ l ∈ App.leaves,
    (merged first file upper).at? l.path = (overlaid? file upper l.path).or (first.at? l.path))
include hfirst hat

theorem complete_merged : Complete App.leaves (merged first file upper) := by
  intro l hl hshown
  have hsome := (Leafy.written hfirst).complete l hl hshown
  rw [hat l hl]
  cases overlaid? file upper l.path with
  | none => exact hsome
  | some w => rfl

/-- A scalar is read from the upper layers or else from the first, which has no password. -/
theorem reads_merged_iff {l : Leaf App} (hl : l ∈ App.leaves) (a : App) :
    l.Reads (merged first file upper).at? Schema.start a
      ↔ l.Reads (overlaid? file upper) (base.replacePassword "") a := by
  rw [Leaf.Reads, Leaf.Reads, hat l hl]
  cases hgiven : overlaid? file upper l.path with
  | some w => exact Iff.rfl
  | none =>
    cases hsecret : l.secret with
    | true =>
      rw [(Leafy.written hfirst).hidden l hl hsecret]
      obtain rfl := eq_passwordLeaf l hl ((path_eq_iff_secret l hl).2 hsecret)
      exact Iff.rfl
    | false =>
      have hpath : l.path ≠ passwordPath := fun h => by
        rw [(path_eq_iff_secret l hl).1 h] at hsecret
        cases hsecret
      obtain ⟨w, -, hread, hw⟩ := (Leafy.written hfirst).shown l hl hsecret
      rw [hw, get_replacePassword l hl hpath]
      simp only [Option.none_or, hread, Except.ok.injEq]
      exact eq_comm

theorem ofLayer_merged_eq_ok_iff (a : App) :
    Setting.ofLayer (merged first file upper) = .ok a
      ↔ ∀ l ∈ App.leaves, l.Reads (overlaid? file upper) (base.replacePassword "") a :=
  (Leafy.ofLayer_eq_ok_iff rfl (complete_merged hfirst hat)).trans
    (forall₂_congr fun _ hl => reads_merged_iff hfirst hat hl a)

end Merged

/-! ## Loading -/

/-- Settings that come from what is given over a base: scalar by scalar, with the password of the
base in place of an empty one, and with a lifetime that is allowed. -/
structure Loads (given : List String → Option Value) (base c : App) : Prop where
  scalars : ∀ l ∈ App.leaves, l.path ≠ passwordPath → l.Reads given base c
  password : ∃ s,
    (match given passwordPath with
      | some w => Layers.coerceText w = .ok s
      | none => s = "")
    ∧ c.email.password = if s = "" then base.email.password else s
  lifetime : c.verification.codeLifetime ≤ maxLifetime

theorem get_withPassword {l : Leaf App} (hl : l ∈ App.leaves) (hpath : l.path ≠ passwordPath)
    (a : App) (password : String) : l.get (withPassword a password) = l.get a := by
  unfold withPassword
  split
  · exact get_replacePassword l hl hpath a password
  · rfl

theorem password_withPassword (a : App) (password : String) :
    (withPassword a password).email.password
      = if a.email.password = "" then password else a.email.password := by
  unfold withPassword
  split <;> rfl

/-- Two settings with the same scalars apart from the password, and the same password. -/
theorem eq_of_get_eq {a b : App} (h : ∀ l ∈ App.leaves, l.path ≠ passwordPath → l.get a = l.get b)
    (hpassword : a.email.password = b.email.password) : a = b := by
  refine Leafy.ext fun l hl => ?_
  by_cases hpath : l.path = passwordPath
  · obtain rfl := eq_passwordLeaf l hl hpath
    exact hpassword
  · exact h l hl hpath

theorem reads_congr {l : Leaf App} {given : List String → Option Value} {base base' c c' : App}
    (hbase : l.get base = l.get base') (hc : l.get c = l.get c') :
    l.Reads given base c ↔ l.Reads given base' c' := by
  rw [Leaf.Reads, Leaf.Reads, hbase, hc]

/-- Settings are read without the password of the base, which is put back afterwards. -/
theorem loads_iff {given : List String → Option Value} {base c : App} :
    Loads given base c ↔
      ∃ a, (∀ l ∈ App.leaves, l.Reads given (base.replacePassword "") a)
        ∧ withPassword a base.email.password = c ∧ c.verification.codeLifetime ≤ maxLifetime := by
  constructor
  · rintro ⟨hscalars, ⟨s, hgiven, hpassword⟩, hlifetime⟩
    refine ⟨c.replacePassword s, fun l hl => ?_, ?_, hlifetime⟩
    · by_cases hpath : l.path = passwordPath
      · obtain rfl := eq_passwordLeaf l hl hpath
        exact hgiven
      · exact (reads_congr (get_replacePassword l hl hpath base "")
          (get_replacePassword l hl hpath c s)).2 (hscalars l hl hpath)
    · -- With the password put back these are the loaded settings again.
      refine eq_of_get_eq (fun l hl hpath => ?_) ?_
      · rw [get_withPassword hl hpath, get_replacePassword l hl hpath]
      · rw [password_withPassword, hpassword]
        rfl
  · rintro ⟨a, hreads, rfl, hlifetime⟩
    refine ⟨fun l hl hpath => ?_, ⟨a.email.password, ?_, password_withPassword a _⟩, hlifetime⟩
    · exact (reads_congr (get_replacePassword l hl hpath base "")
        (get_withPassword hl hpath a _).symm).1 (hreads l hl)
    · exact hreads passwordLeaf passwordLeaf_mem

theorem bind_eq_ok_iff {ε α β : Type} {x : Except ε α} {f : α → Except ε β} {b : β} :
    x.bind f = .ok b ↔ ∃ a, x = .ok a ∧ f a = .ok b := by
  cases x with
  | error e => simp [Except.bind]
  | ok a => simp [Except.bind]

theorem eq_ok_of_toOption {ε α : Type} {x : Except ε α} {a : α} (h : x.toOption = some a) :
    x = .ok a := by
  cases x with
  | error e => exact absurd h nofun
  | ok b => exact congrArg Except.ok (Option.some.inj h)

/-- What is done with settings that were read: the password is put back, and the lifetime is
checked. -/
def completed (password : String) (a : App) : Except Layers.Fault App :=
  match (withPassword a password).verification.complaint? with
  | some text => .error (.message text)
  | none => .ok (withPassword a password)

theorem completed_eq_ok_iff {password : String} {a c : App} :
    completed password a = .ok c
      ↔ withPassword a password = c ∧ c.verification.codeLifetime ≤ maxLifetime := by
  unfold completed Verification.complaint?
  by_cases h : (withPassword a password).verification.codeLifetime > maxLifetime
  · rw [if_pos h]
    refine iff_of_false nofun ?_
    rintro ⟨rfl, hle⟩
    exact Int64.not_lt.2 hle h
  · rw [if_neg h]
    constructor
    · rintro ⟨⟩
      exact ⟨rfl, Int64.not_lt.1 h⟩
    · rintro ⟨rfl, -⟩
      rfl

section Load

variable {vars : Variables} {files : Files} {file : List (String × Value)}
  (hfile : fileLayer files (allVariables vars files).environment = .ok file)
include hfile

theorem load_eq :
    load vars files = (Setting.toLayer (allVariables vars files).app).bind fun first =>
      (Setting.ofLayer (merged first file (overrides (allVariables vars files)))).bind
        (completed (allVariables vars files).app.email.password) := by
  have hfile' : fileLayer files (allVariables vars files).app.environment = .ok file := hfile
  unfold load mergedLayers
  simp only [hfile', bind, Except.bind]
  cases Setting.toLayer (allVariables vars files).app with
  | error fault => rfl
  | ok first =>
    change (Except.bind (Setting.ofLayer (merged first file _)) fun app => _) = Except.bind _ _
    cases (Setting.ofLayer (merged first file (overrides (allVariables vars files)))
      : Except Layers.Fault App) with
    | error fault => rfl
    | ok a =>
      simp only [Except.bind, completed]
      cases (withPassword a _).verification.complaint? <;> rfl

variable (hfits : ∀ entry ∈ file ++ overrides (allVariables vars files), FitsSettings entry)
include hfits

theorem at?_merged_load {first : Value}
    (hfirst : Setting.toLayer (allVariables vars files).app = .ok first) : ∀ l ∈ App.leaves,
    (merged first file (overrides (allVariables vars files))).at? l.path
      = (overlaid? file (overrides (allVariables vars files)) l.path).or (first.at? l.path) :=
  fun l hl => at?_merged hfirst (distinct_fileLayer hfile) (distinct_overrides _) hl
    fun entry hentry => hfits entry hentry l hl

/-- **Which settings are loaded.** -/
theorem load_eq_ok_iff (c : App) :
    load vars files = .ok c ↔
      ((allVariables vars files).app.server.workers.toNat : Int) ≤ Layers.maxInt
        ∧ Loads (overlaid? file (overrides (allVariables vars files)))
            (allVariables vars files).app c := by
  rw [load_eq hfile, ← exists_toLayer_app_iff, loads_iff]
  constructor
  · intro h
    obtain ⟨first, hfirst, h⟩ := bind_eq_ok_iff.1 h
    obtain ⟨a, ha, h⟩ := bind_eq_ok_iff.1 h
    have hat := at?_merged_load hfile hfits hfirst
    exact ⟨⟨first, hfirst⟩, a, (ofLayer_merged_eq_ok_iff hfirst hat a).1 ha,
      completed_eq_ok_iff.1 h⟩
  · rintro ⟨⟨first, hfirst⟩, a, ha, h⟩
    have hat := at?_merged_load hfile hfits hfirst
    rw [hfirst, Except.bind, (ofLayer_merged_eq_ok_iff hfirst hat a).2 ha]
    exact completed_eq_ok_iff.2 h

/-- Where nothing is laid over the plain variables, their settings are loaded. -/
theorem load_eq_ok_iff_of_no_layers
    (hnone : files.config.lookup (allVariables vars files).environment.configFile = none)
    (hupper : overrides (allVariables vars files) = []) (c : App) :
    load vars files = .ok c ↔
      c = (allVariables vars files).app
        ∧ ((allVariables vars files).app.server.workers.toNat : Int) ≤ Layers.maxInt
        ∧ (allVariables vars files).app.verification.codeLifetime ≤ maxLifetime := by
  have hempty : file = [] := by
    rw [fileLayer, hnone] at hfile
    exact (Except.ok.inj hfile).symm
  rw [load_eq_ok_iff hfile hfits, hempty, hupper]
  constructor
  · rintro ⟨hworkers, hscalars, ⟨s, rfl, hpassword⟩, hlifetime⟩
    obtain rfl := eq_of_get_eq hscalars hpassword
    exact ⟨rfl, hworkers, hlifetime⟩
  · rintro ⟨rfl, hworkers, hlifetime⟩
    exact ⟨hworkers, fun _ _ _ => rfl, ⟨"", rfl, rfl⟩, hlifetime⟩

/-- **What the loading of settings depends on**: the settings of the plain variables, and what is
laid over them in the places of scalars. -/
theorem load_congr {vars' : Variables} {files' : Files} {file' : List (String × Value)}
    (hfile' : fileLayer files' (allVariables vars' files').environment = .ok file')
    (hfits' : ∀ entry ∈ file' ++ overrides (allVariables vars' files'), FitsSettings entry)
    (hbase : (allVariables vars' files').app = (allVariables vars files).app)
    (hgiven : ∀ l ∈ App.leaves,
      overlaid? file' (overrides (allVariables vars' files')) l.path
        = overlaid? file (overrides (allVariables vars files)) l.path) :
    load vars' files' = load vars files := by
  rw [load_eq hfile, load_eq hfile', hbase]
  cases hfirst : Setting.toLayer (allVariables vars files).app with
  | error fault => rfl
  | ok first =>
    have hat := at?_merged_load hfile hfits hfirst
    have hat' := at?_merged_load hfile' hfits' (hbase ▸ hfirst)
    have hread := Leafy.ofLayer_congr (complete_merged hfirst hat) fun l hl =>
      (hat l hl).trans ((congrArg (Option.or · _) (hgiven l hl).symm).trans (hat' l hl).symm)
    rw [Except.bind, Except.bind, hread]

end Load

/-- **Settings come from the highest layer.** The layers above the plain variables count for what
they have in the places of scalars, so a key of no scalar has no influence; without them the
settings of the plain variables are loaded. -/
theorem load_reads_highest_layer (vars : Variables) (files : Files) (file : List (String × Value))
    (hfile : fileLayer files (allVariables vars files).environment = .ok file)
    (hfits : ∀ entry ∈ file ++ overrides (allVariables vars files), FitsSettings entry) :
    let env := allVariables vars files
    let base := env.app
    (∀ c, load vars files = .ok c ↔
        (base.server.workers.toNat : Int) ≤ Layers.maxInt
          ∧ Loads (overlaid? file (overrides env)) base c)
      ∧ (∀ (vars' : Variables) (files' : Files) (file' : List (String × Value)),
        let env' := allVariables vars' files'
        fileLayer files' env'.environment = .ok file' →
          (∀ entry ∈ file' ++ overrides env', FitsSettings entry) → env'.app = base →
            (∀ l ∈ App.leaves, overlaid? file' (overrides env') l.path
              = overlaid? file (overrides env) l.path) →
              load vars' files' = load vars files)
      ∧ (files.config.lookup env.environment.configFile = none → overrides env = [] →
        ∀ c, load vars files = .ok c ↔
          c = base ∧ (base.server.workers.toNat : Int) ≤ Layers.maxInt
            ∧ base.verification.codeLifetime ≤ maxLifetime) :=
  ⟨load_eq_ok_iff hfile hfits,
    fun _ _ _ hfile' hfits' hbase hgiven => load_congr hfile hfits hfile' hfits' hbase hgiven,
    fun hnone hupper => load_eq_ok_iff_of_no_layers hfile hfits hnone hupper⟩

/-- The port of a file wins over that of the variables, the empty password of a file does not, and a
key of no field does not count. -/
theorem file_wins_except_empty_password :
    let vars : Variables := [("SERVER_PORT", some "9000"), ("SMTP_PASSWORD", some "secret"),
      ("APP__EMAIL__USERNAME", some "relay"), ("APP__SERVER__COLOUR", some "red")]
    let files : Files :=
      { config := [("development.toml", "[server]\nport = 7000\n[email]\npassword = \"\"\n")] }
    let c : App := { vars.app with
      server := { port := 7000 }, email := { username := "relay", password := "secret" } }
    ∃ file, fileLayer files vars.environment = .ok file
      ∧ (∀ entry ∈ file ++ overrides vars, FitsSettings entry)
      ∧ load vars files = .ok c ∧ Loads (overlaid? file (overrides vars)) vars.app c := by
  intro vars files c
  have hfits : (fileLayer files vars.environment).toOption.any
      (fun file => decide (∀ entry ∈ file ++ overrides vars, FitsSettings entry)) = true := by
    decide +kernel
  have hload : load vars files = .ok c := eq_ok_of_toOption (by decide +kernel)
  obtain ⟨file, hfile, hfits⟩ := (Option.any_eq_true _ _).1 hfits
  have hfile := eq_ok_of_toOption hfile
  have hfits := of_decide_eq_true hfits
  obtain ⟨-, hloads⟩ := ((load_reads_highest_layer vars files file hfile hfits).1 c).1 hload
  exact ⟨file, hfile, hfits, hload, hloads⟩

/-- Keys of no field count where they lie below a named value, or are items of a group. -/
theorem key_below_scalar_and_item_of_group_count :
    let below : Variables := [("APP__EMAIL__PROVIDER__SMTP", some "x")]
    let item : Variables := [("APP__CACHE[0]", some "x")]
    let fields := App.leaves.map fun l => ".".intercalate l.path
    let base := Variables.app []
    (overrides below).map Prod.fst = ["email.provider.smtp"] ∧ "email.provider.smtp" ∉ fields
      ∧ (overrides item).map Prod.fst = ["cache[0]"] ∧ "cache[0]" ∉ fields
      ∧ below.app = base ∧ item.app = base ∧ load [] {} = .ok base
      ∧ load below {} = .ok { base with email := { provider := .smtp } }
      ∧ load item {} = .ok { base with cache := { url := "x" } } := by
  intro below item fields base
  exact ⟨by decide +kernel, by decide +kernel, by decide +kernel, by decide +kernel,
    by decide +kernel, by decide +kernel, eq_ok_of_toOption (by decide +kernel),
    eq_ok_of_toOption (by decide +kernel), eq_ok_of_toOption (by decide +kernel)⟩

end Passcode.Settings
