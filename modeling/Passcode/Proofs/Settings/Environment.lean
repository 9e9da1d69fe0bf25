import Passcode.Proofs.Settings.Place

/-!
# Which configuration file counts

The plain variables name an environment, and of all configuration files the one of that environment
counts. The environment is a setting like any other, though, and the layers above the plain
variables may change it. Where they do, the file that counts is not the one of the environment that
is loaded, and the loaded settings change with a file of another environment.

## Main definitions

* `Files.AgreeOn` — the files of a deployment with changes to those of other environments

## Main statements

* `load_eq_of_agreeOn` — files of other environments than the named one do not count
* `exists_entry_for_environment` — where another environment is loaded, a layer sets it
* `file_of_named_environment_counts` — which file counts, and when it is the one of what is loaded
-/

namespace Passcode.Settings

open Layers (Value Step stepsOf entryValue)

theorem Environment.configFile_inj : ∀ {e e' : Environment}, e.configFile = e'.configFile →
    e = e' := by
  intro e e' h
  cases e <;> cases e' <;> first | rfl | exact absurd h (by decide)

/-- The files of a deployment agree on the file of an environment, and on what is no configuration
file. -/
structure Files.AgreeOn (files files' : Files) (e : Environment) : Prop where
  envFile : files'.envFile = files.envFile
  config : files'.config.lookup e.configFile = files.config.lookup e.configFile

section

variable {vars : Variables} {files files' : Files} {c : App}

theorem allVariables_eq (h : files'.envFile = files.envFile) :
    allVariables vars files' = allVariables vars files := by
  rw [allVariables, allVariables, h]

/-- Files of other environments than the named one do not count. -/
theorem load_eq_of_agreeOn (h : files.AgreeOn files' (allVariables vars files).environment) :
    load vars files' = load vars files := by
  have hfile : fileLayer files' (allVariables vars files).app.environment
      = fileLayer files (allVariables vars files).app.environment := by
    have hconfig : files'.config.lookup (allVariables vars files).app.environment.configFile
        = files.config.lookup (allVariables vars files).app.environment.configFile := h.config
    rw [fileLayer, fileLayer, hconfig]
  unfold load mergedLayers
  simp only [allVariables_eq h.envFile, hfile]

/-- A file that breaks off where a key is expected. -/
theorem read_equals_sign (e : Environment) : Toml.read (configPath e.configFile) "=" = none := by
  cases e <;> decide +kernel

/-- Without a good file of the named environment nothing is loaded. -/
theorem load_ne_ok_of_spoilt
    (hfile : files'.config.lookup (allVariables vars files').environment.configFile = some "=") :
    load vars files' ≠ .ok c := by
  have hbroken : fileLayer files' (allVariables vars files').environment = .error .brokenFile := by
    rw [fileLayer, hfile]
    simp only [read_equals_sign]
  exact load_ne_ok_of_broken hbroken

/-! ## Layers that set the environment -/

/-- Every path begins with a key. -/
theorem exists_stepsOf_eq (text : String) : ∃ key steps, stepsOf text = .key key :: steps := by
  unfold stepsOf
  dsimp only
  split
  · exact ⟨_, _, rfl⟩
  · split <;> exact ⟨_, _, rfl⟩

/-- An entry sets the environment, or something below it. -/
def SetsEnvironment (entry : String × Value) : Prop :=
  (stepsOf entry.1).head? = some (.key "environment")

theorem entryValue_of_not_setsEnvironment {entry : String × Value} (h : ¬SetsEnvironment entry) :
    (entryValue entry).fits ["environment"] = true
      ∧ (entryValue entry).at? ["environment"] = none := by
  have haside : leadsAside (stepsOf entry.1) ["environment"] = true := by
    obtain ⟨key, steps, hsteps⟩ := exists_stepsOf_eq entry.1
    have hkey : key ≠ "environment" := by
      rintro rfl
      exact h (by rw [SetsEnvironment, hsteps]; rfl)
    rw [hsteps, leadsAside, if_neg hkey]
  exact under_of_leadsAside entry.2 haside

/-- **Where another environment is loaded**, an entry of the file or of the overrides sets it. -/
theorem exists_entry_for_environment (h : load vars files = .ok c)
    (hne : c.environment ≠ (allVariables vars files).environment) :
    ∃ file, fileLayer files (allVariables vars files).environment = .ok file
      ∧ ∃ entry ∈ file ++ overrides (allVariables vars files), SetsEnvironment entry := by
  obtain ⟨file, first, a, hfile, hfirst, ha, hcompleted⟩ := exists_of_load_eq_ok h
  refine ⟨file, hfile, Classical.byContradiction fun hnone => ?_⟩
  let l : Leaf App := ⟨["environment"], false, App.environment⟩
  have hl : l ∈ App.leaves := List.mem_of_getElem? (i := 0) rfl
  have hentry : ∀ entry ∈ file ++ overrides (allVariables vars files),
      (entryValue entry).fits l.path = true ∧ (entryValue entry).at? l.path = none :=
    fun entry he => entryValue_of_not_setsEnvironment fun hsets => hnone ⟨entry, he, hsets⟩
  -- Nothing lies over what the plain variables name, so that is what is read.
  have hupper : overlaid? file (overrides (allVariables vars files)) l.path = none := by
    rw [overlaid?,
      given?_eq_none fun e he => (hentry e (List.mem_append_right file he)).2,
      given?_eq_none fun e he => (hentry e (List.mem_append_left _ he)).2]
    rfl
  have hat := at?_merged hfirst (distinct_fileLayer hfile) (distinct_overrides _) hl
    fun e he => (hentry e he).1
  obtain ⟨w, -, hw, hfirstAt⟩ := (Leafy.written hfirst).shown l hl rfl
  rw [hupper, Option.none_or, hfirstAt] at hat
  have hread := Leafwise.ofLayer_at? ha l hl hat
  have henvironment : a.environment = (allVariables vars files).app.environment :=
    Except.ok.inj (hread.symm.trans hw)
  obtain ⟨hc, -⟩ := completed_eq_ok_iff.1 hcompleted
  have hkept : c.environment = a.environment := by
    rw [← hc]
    exact get_withPassword hl (by decide) a _
  exact hne (hkept.trans henvironment)

end

/-- **Which configuration file counts.** Whatever is done to the files of other environments, what
is loaded stays the same, if they are other ones than the environment that the plain variables name.
For other ones than the environment that is loaded this holds only if the two are one; and they are,
unless the file or an override sets the environment. -/
theorem file_of_named_environment_counts (vars : Variables) (files : Files) (c : App)
    (h : load vars files = .ok c) :
    let named := (allVariables vars files).environment
    (∀ files', files.AgreeOn files' named → load vars files' = .ok c)
      ∧ ((∀ files', files.AgreeOn files' c.environment → load vars files' = .ok c)
        ↔ c.environment = named)
      ∧ (c.environment ≠ named → ∃ file, fileLayer files named = .ok file
        ∧ ∃ entry ∈ file ++ overrides (allVariables vars files), SetsEnvironment entry) := by
  intro named
  have hnamed : ∀ files', files.AgreeOn files' named → load vars files' = .ok c :=
    fun files' hagree => (load_eq_of_agreeOn hagree).trans h
  refine ⟨hnamed, ⟨fun hall => ?_, fun heq => heq ▸ hnamed⟩, exists_entry_for_environment h⟩
  refine Decidable.byContradiction fun hne => ?_
  -- The file of the named environment is spoilt, which no other environment should notice.
  let spoilt : Files := { files with config := (named.configFile, "=") :: files.config }
  have hagree : files.AgreeOn spoilt c.environment := by
    have hfile : (c.environment.configFile == named.configFile) = false :=
      beq_eq_false_iff_ne.2 fun heq => hne (Environment.configFile_inj heq)
    refine ⟨rfl, ?_⟩
    rw [List.lookup_cons, hfile]
  refine load_ne_ok_of_spoilt ?_ (hall spoilt hagree)
  exact List.lookup_cons_self

/-- The file of staging counts where the plain variables name staging, and says itself that all is
in production. -/
theorem file_may_name_another_environment :
    let vars : Variables := [("ENV", some "staging")]
    let files : Files :=
      { config := [("staging.toml", "environment = \"production\"\n[server]\nport = 9000\n"),
        ("production.toml", "[server]\nport = 443\n")] }
    let c : App := { vars.app with environment := .production, server := { port := 9000 } }
    load vars files = .ok c
      ∧ (∀ files', files.AgreeOn files' .staging → load vars files' = .ok c)
      ∧ ∃ file, fileLayer files .staging = .ok file
        ∧ ∃ entry ∈ file ++ overrides vars, SetsEnvironment entry := by
  intro vars files c
  have hload : load vars files = .ok c := eq_ok_of_toOption (by decide +kernel)
  have hstaging : (allVariables vars files).environment = .staging := by decide +kernel
  obtain ⟨hnamed, -, hsets⟩ := file_of_named_environment_counts vars files c hload
  rw [hstaging] at hnamed hsets
  exact ⟨hload, hnamed, hsets (by decide)⟩

/-- In production, by an override, the file of development counts, and that of production does
not. -/
theorem production_with_file_of_development :
    let vars : Variables := [("APP__ENVIRONMENT", some "production")]
    let files : Files := { config := [("development.toml", "[cache]\nuse_memory = true\n")] }
    let c (cache : Cache) : App := { Variables.app [] with environment := .production, cache }
    load vars files = .ok (c { useMemory := true })
      ∧ (c { useMemory := true }).environment = .production
      ∧ files.AgreeOn {} .production
      ∧ load vars {} = .ok (c {}) ∧ c {} ≠ c { useMemory := true } := by
  intro vars files c
  exact ⟨eq_ok_of_toOption (by decide +kernel), rfl, ⟨rfl, by decide⟩,
    eq_ok_of_toOption (by decide +kernel), by decide +kernel⟩

end Passcode.Settings
