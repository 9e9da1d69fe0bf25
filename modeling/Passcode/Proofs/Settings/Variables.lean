import Passcode.Proofs.Settings.Load
import Passcode.Settings.Variables

/-!
# Which variable governs which setting

Each plain variable governs one scalar of the settings, apart from the three that name the
environment: these govern the environment and, since it gives the defaults there, all logging
settings. A variable that is changed shows in nothing that it does not govern, and variables with
other names do not show at all.

A variable counts only for what it says: its value, if that is a text from which the setting can be
read. One that says nothing might as well be unset. The variables that name the environment are
different: the first that has a text decides, even if it names no environment, and what stands in
those after it shows neither in the environment nor in the logging settings.

## Main definitions

* `Governs` — the variables and the scalars they govern
* `AgreeOff` — variables that differ in one name at most
* `said?` — what a variable says
* `loggingFor` — the logging settings of an environment

## Main statements

* `environment_of_first`, `logging_of_first` — the first text names the environment, and decides
  over the logging settings
* `get_app_congr`, `SameFor.of_said` — a scalar depends on what is said by the variables that govern
  it
* `get_app_ne` — and every one of them shows in it
* `app_of_first`, `app_of_shadowed` — nothing but the first text among those that name the
  environment shows
* `variables_are_independent` — what the change of one variable does to the settings
-/

namespace Passcode.Settings.Variables

/-! ## What variables govern -/

/-- The variables that name the environment; the first that has a text counts. -/
def environmentNames : List String := ["ENVIRONMENT", "ENV", "RUST_ENV"]

/-- The places of the scalars that depend on the environment. -/
def environmentPlaces : List (List String) :=
  [["environment"], ["logging", "level"], ["logging", "format"], ["logging", "colored"],
    ["logging", "source_location"]]

/-- The other variables, each with the place of its one scalar. -/
def singlePlaces : List (String × List String) := [
  ("LOG_LEVEL", ["logging", "level"]),
  ("SERVER_HOST", ["server", "host"]),
  ("SERVER_PORT", ["server", "port"]),
  ("SERVER_WORKERS", ["server", "workers"]),
  ("REDIS_URL", ["cache", "url"]),
  ("CACHE_BACKEND", ["cache", "use_memory"]),
  ("EMAIL_PROVIDER", ["email", "provider"]),
  ("SMTP_HOST", ["email", "smtp_host"]),
  ("SMTP_PORT", ["email", "smtp_port"]),
  ("SMTP_USERNAME", ["email", "username"]),
  ("SMTP_PASSWORD", ["email", "password"]),
  ("EMAIL_FROM", ["email", "from_email"]),
  ("EMAIL_FROM_NAME", ["email", "from_name"]),
  ("SMTP_STARTTLS", ["email", "starttls"]),
  ("VERIFY_VARIANT", ["verification", "variant"]),
  ("VERIFY_CODE_PREFIX", ["verification", "code_prefix"]),
  ("VERIFY_CODE_TTL_SECONDS", ["verification", "code_ttl_seconds"]),
  ("VERIFY_PRODUCT_NAME", ["verification", "product_name"]),
  ("VERIFY_SUBJECT", ["verification", "subject"])]

/-- A variable governs the scalar in a place. -/
def Governs (name : String) (path : List String) : Prop :=
  (name ∈ environmentNames ∧ path ∈ environmentPlaces) ∨ (name, path) ∈ singlePlaces

instance (name : String) (path : List String) : Decidable (Governs name path) :=
  inferInstanceAs (Decidable (_ ∨ _))

/-- Variables that differ in one name at most. -/
def AgreeOff (name : String) (vars vars' : Variables) : Prop :=
  ∀ other, other ≠ name → vars'.lookup other = vars.lookup other

/-! ## What variables say -/

/-- Whether the setting that a variable governs can be read from a text. All variables but those of
numbers and choices take any text. -/
def isReadable (name text : String) : Bool :=
  match name with
  | "SERVER_PORT" | "SMTP_PORT" => (port? text).isSome
  | "SERVER_WORKERS" => (size? text).isSome
  | "EMAIL_PROVIDER" => (Provider.parse text).isOk
  | "VERIFY_VARIANT" => (Variant.parse text).isOk
  | "VERIFY_CODE_TTL_SECONDS" => (Text.readInt64 text).isSome
  | _ => true

/-- What a variable says: its text, if the setting can be read from it. -/
def said? (vars : Variables) (name : String) : Option String :=
  (vars.text? name).filter (isReadable name)

variable {vars vars' : Variables}

theorem said?_of_lookup_eq {name : String} (h : vars'.lookup name = vars.lookup name) :
    vars'.said? name = vars.said? name := by
  rw [said?, said?, text?, text?, h]

/-- A variable says nothing if it is unset, if its value is no text, or if its setting cannot be
read from the text. -/
theorem said?_eq_none_iff {name : String} : vars.said? name = none
    ↔ vars.lookup name = none ∨ vars.lookup name = some none
      ∨ ∃ text, vars.lookup name = some (some text) ∧ isReadable name text = false := by
  rw [said?, text?]
  rcases vars.lookup name with _ | _ | text <;> simp

/-- A variable that names the environment says its text. -/
theorem said?_eq_text? {name : String} (h : name ∈ environmentNames) :
    vars.said? name = vars.text? name := by
  have hreadable : isReadable name = fun _ => true := by
    simp only [environmentNames, List.mem_cons, List.not_mem_nil, or_false] at h
    rcases h with rfl | rfl | rfl <;> rfl
  rw [said?, hreadable]
  cases vars.text? name <;> rfl

/-! ## The environment -/

/-- The environment is that of the first text among the variables that name it. -/
theorem environment_eq (vars : Variables) : vars.environment
    = (Environment.parse ((environmentNames.findSome? vars.text?).getD "development")).toOption.getD
        .development := by
  have hnamed : (vars.text? "ENVIRONMENT").or ((vars.text? "ENV").or (vars.text? "RUST_ENV"))
      = environmentNames.findSome? vars.text? := by
    simp only [environmentNames, List.findSome?_cons, List.findSome?_nil]
    cases vars.text? "ENVIRONMENT" with
    | some _ => rfl
    | none =>
      cases vars.text? "ENV" with
      | some _ => rfl
      | none => cases vars.text? "RUST_ENV" <;> rfl
  rw [environment, hnamed]

/-- The first variable with a text decides which environment is named. -/
theorem environment_of_first {text : String}
    (h : environmentNames.findSome? vars.text? = some text) :
    vars.environment = (Environment.parse text).toOption.getD .development := by
  rw [environment_eq, h, Option.getD_some]

/-- Beyond the first text, what the three variables hold does not show in the environment. -/
theorem environment_congr
    (h : environmentNames.findSome? vars'.text? = environmentNames.findSome? vars.text?) :
    vars'.environment = vars.environment := by
  rw [environment_eq, environment_eq, h]

/-- The logging settings of an environment, with the level that the variables name. -/
def loggingFor (vars : Variables) (e : Environment) : Logging :=
  let defaults := Logging.ofEnvironment e
  { defaults with level := vars.read "LOG_LEVEL" some defaults.level }

theorem logging_eq (vars : Variables) : vars.logging = vars.loggingFor vars.environment := rfl

/-- The first variable with a text decides over the logging settings as well. -/
theorem logging_of_first {text : String}
    (h : environmentNames.findSome? vars.text? = some text) :
    vars.logging = vars.loggingFor ((Environment.parse text).toOption.getD .development) := by
  rw [logging_eq, environment_of_first h]

/-- The first value found among names depends only on what is found for each of them. -/
theorem findSome?_congr {α β : Type} {f g : α → Option β} {names : List α}
    (h : ∀ name ∈ names, g name = f name) : names.findSome? g = names.findSome? f := by
  induction names with
  | nil => rfl
  | cons name names ih =>
    rw [List.findSome?_cons, List.findSome?_cons, h name List.mem_cons_self,
      ih fun other hother => h other (List.mem_cons_of_mem _ hother)]

/-- Behind another one that has a text, a variable that names the environment does not count. -/
theorem findSome?_of_shadowed {name : String} {before after : List String}
    (h : AgreeOff name vars vars') (hnames : environmentNames = before ++ name :: after)
    (hbefore : ∃ earlier ∈ before, (vars.text? earlier).isSome) :
    environmentNames.findSome? vars'.text? = environmentNames.findSome? vars.text? := by
  have hdistinct : (before ++ name :: after).Nodup := hnames ▸ (by decide)
  have hfirst : before.findSome? vars'.text? = before.findSome? vars.text? := by
    refine findSome?_congr fun earlier hearlier => ?_
    have hne : earlier ≠ name :=
      (List.nodup_append.1 hdistinct).2.2 earlier hearlier name List.mem_cons_self
    rw [text?, text?, h earlier hne]
  obtain ⟨text, htext⟩ := Option.isSome_iff_exists.1 (List.findSome?_isSome_iff.2 hbefore)
  rw [hnames, List.findSome?_append, List.findSome?_append, hfirst, htext, Option.some_or,
    Option.some_or]

/-! ## What a scalar depends on -/

/-- What a scalar depends on is the same: the environment, if that governs the scalar, and what is
said by the other variables that govern it. -/
structure SameFor (path : List String) (vars vars' : Variables) : Prop where
  environment : path ∈ environmentPlaces → vars'.environment = vars.environment
  said : ∀ name, (name, path) ∈ singlePlaces → vars'.said? name = vars.said? name

/-- If the variables that govern a scalar say the same, what the scalar depends on is the same. -/
theorem SameFor.of_said {path : List String}
    (h : ∀ name, Governs name path → vars'.said? name = vars.said? name) :
    SameFor path vars vars' where
  environment hpath := environment_congr <| findSome?_congr fun name hname => by
    rw [← said?_eq_text? hname, ← said?_eq_text? hname, h name (.inl ⟨hname, hpath⟩)]
  said name hname := h name (.inr hname)

/-- A scalar of one variable depends on what the variable says, if it can only be read from readable
texts. -/
theorem read_congr {α : Type} {path : List String} {reading : String → Option α} {default : α}
    (name : String) (hplace : (name, path) ∈ singlePlaces)
    (hreading : ∀ text, isReadable name text = false → reading text = none)
    (h : SameFor path vars vars') :
    vars'.read name reading default = vars.read name reading default := by
  have hsaid (vars : Variables) :
      (vars.text? name).bind reading = (vars.said? name).bind reading := by
    rw [said?]
    cases vars.text? name with
    | none => rfl
    | some text =>
      cases hreadable : isReadable name text with
      | true => simp [Option.filter, hreadable]
      | false => simp [Option.filter, hreadable, hreading text hreadable]
  rw [read, read, hsaid, hsaid, h.said name hplace]

theorem toOption_of_not_isOk {ε α : Type} {e : Except ε α} (h : e.isOk = false) :
    e.toOption = none := by
  cases e with
  | error _ => rfl
  | ok _ => exact absurd h (by simp [Except.isOk, Except.toBool])

/-- **What a scalar depends on** is the environment, if that governs it, and what is said by the
other variables that govern it, and nothing else. -/
theorem get_app_congr : ∀ l ∈ App.leaves, SameFor l.path vars vars' →
    l.get vars'.app = l.get vars.app := by
  have number {α : Type} {reading : String → Option α} :
      ∀ text, (reading text).isSome = false → reading text = none :=
    fun _ => by simp
  have choice {α : Type} {parse : String → Except String α} :
      ∀ text, (parse text).isOk = false → (parse text).toOption = none :=
    fun _ => toOption_of_not_isOk
  have free {α : Type} {name : String} {reading : String → Option α}
      (hreadable : isReadable name = fun _ => true) :
      ∀ text, isReadable name text = false → reading text = none :=
    fun text h => absurd h (by simp [hreadable])
  have logging (h : SameFor ["logging", "level"] vars vars') :
      vars'.logging.level = vars.logging.level := by
    have hlevel (default : String) :
        vars'.read "LOG_LEVEL" some default = vars.read "LOG_LEVEL" some default :=
      read_congr "LOG_LEVEL" (by decide) (free rfl) h
    simp only [Variables.logging, h.environment (by decide), hlevel]
  have layout {β : Type} {path : List String} (get : Logging → β)
      (hget : ∀ (s : Logging) level, get { s with level } = get s)
      (hpath : path ∈ environmentPlaces)
      (h : SameFor path vars vars') : get vars'.logging = get vars.logging := by
    simp only [Variables.logging, hget, h.environment hpath]
  simp only [App.leaves, List.forall_mem_cons]
  refine ⟨fun h => h.environment (by decide),
    -- The server.
    read_congr "SERVER_HOST" (by decide) (free rfl),
    read_congr "SERVER_PORT" (by decide) number,
    read_congr "SERVER_WORKERS" (by decide) number,
    fun _ => rfl, fun _ => rfl,
    -- The code store.
    read_congr "REDIS_URL" (by decide) (free rfl),
    fun _ => rfl, fun _ => rfl, fun _ => rfl,
    read_congr "CACHE_BACKEND" (by decide) (free rfl), fun _ => rfl,
    -- Mail.
    read_congr "EMAIL_PROVIDER" (by decide) choice,
    read_congr "SMTP_HOST" (by decide) (free rfl),
    read_congr "SMTP_PORT" (by decide) number,
    read_congr "SMTP_USERNAME" (by decide) (free rfl),
    read_congr "SMTP_PASSWORD" (by decide) (free rfl),
    read_congr "EMAIL_FROM" (by decide) (free rfl),
    read_congr "EMAIL_FROM_NAME" (by decide) (free rfl),
    read_congr "SMTP_STARTTLS" (by decide) (free rfl), fun _ => rfl,
    -- The issuance of codes.
    read_congr "VERIFY_VARIANT" (by decide) choice,
    read_congr "VERIFY_CODE_PREFIX" (by decide) (free rfl),
    read_congr "VERIFY_CODE_TTL_SECONDS" (by decide) number,
    read_congr "VERIFY_PRODUCT_NAME" (by decide) (free rfl),
    read_congr "VERIFY_SUBJECT" (by decide) (free rfl),
    -- The log.
    logging, layout Logging.format (fun _ _ => rfl) (by decide),
    layout Logging.colored (fun _ _ => rfl) (by decide),
    layout Logging.sourceLocation (fun _ _ => rfl) (by decide), nofun⟩

/-- A text that says something else than the default, for every variable. -/
def otherThanDefault (name : String) : String :=
  if name ∈ environmentNames then "test"
  else match name with
    | "CACHE_BACKEND" => "memory"
    | "EMAIL_PROVIDER" => "smtp"
    | "VERIFY_VARIANT" => "captcha"
    | _ => "1"

/-- Every variable that governs a scalar shows in it. -/
theorem get_app_ne {l : Leaf App} (hl : l ∈ App.leaves) {name : String} (h : Governs name l.path) :
    l.get (app [(name, some (otherThanDefault name))]) ≠ l.get (app []) := by
  have hnames : name ∈ environmentNames ++ singlePlaces.map (·.1) := by
    rcases h with ⟨hname, -⟩ | hpair
    · exact List.mem_append_left _ hname
    · exact List.mem_append_right _ (List.mem_map_of_mem (f := (·.1)) hpair)
  -- The values of leaves have many types, so they are compared as they are written.
  have hwritten : ∀ l ∈ App.leaves, ∀ name ∈ environmentNames ++ singlePlaces.map (·.1),
      Governs name l.path →
        (Setting.toJson (l.get (app [(name, some (otherThanDefault name))]))).render
          ≠ (Setting.toJson (l.get (app []))).render := by decide +kernel
  exact fun heq => hwritten l hl name hnames h (by rw [heq])

/-! ## Changes of one variable -/

/-- A change shows only in what the variable governs. -/
theorem get_app_of_agreeOff {name : String} (h : AgreeOff name vars vars') {l : Leaf App}
    (hl : l ∈ App.leaves) (hpath : ¬Governs name l.path) : l.get vars'.app = l.get vars.app :=
  get_app_congr l hl <| .of_said fun other hother =>
    said?_of_lookup_eq (h other fun heq => hpath (heq ▸ hother))

/-- A change between values that say the same does not show. -/
theorem app_of_agreeOff {name : String} (h : AgreeOff name vars vars')
    (hsaid : vars'.said? name = vars.said? name) : vars'.app = vars.app := by
  refine Leafy.ext fun l hl => get_app_congr l hl <| .of_said fun other _ => ?_
  by_cases hother : other = name
  · rw [hother, hsaid]
  · exact said?_of_lookup_eq (h other hother)

/-- Beyond the first text, what names the environment does not show. -/
theorem app_of_first
    (hfirst : environmentNames.findSome? vars'.text? = environmentNames.findSome? vars.text?)
    (hothers : ∀ other, other ∉ environmentNames → vars'.lookup other = vars.lookup other) :
    vars'.app = vars.app := by
  have hapart : ∀ place ∈ singlePlaces, place.1 ∉ environmentNames := by decide
  exact Leafy.ext fun l hl => get_app_congr l hl
    ⟨fun _ => environment_congr hfirst,
      fun name hname => said?_of_lookup_eq (hothers name (hapart _ hname))⟩

/-- A change of a variable that names the environment does not show if an earlier one has a text. -/
theorem app_of_shadowed {name : String} {before after : List String} (h : AgreeOff name vars vars')
    (hnames : environmentNames = before ++ name :: after)
    (hbefore : ∃ earlier ∈ before, (vars.text? earlier).isSome) : vars'.app = vars.app := by
  refine app_of_first (findSome?_of_shadowed h hnames hbefore) fun other hother => h other ?_
  rintro rfl
  exact hother (hnames ▸ List.mem_append_right _ List.mem_cons_self)

theorem agreeOff_cons (name : String) (value : Option String) (vars : Variables) :
    AgreeOff name vars ((name, value) :: vars) := by
  intro other hother
  have hkey : (other == name) = false := beq_eq_false_iff_ne.2 hother
  rw [List.lookup_cons, hkey]

/-- **Variables are independent, and one that cannot be read is as good as none.** A change of one
variable shows in nothing that it does not govern, and if it governs nothing it does not show at
all; what it governs, it can change. To set a variable that was unset changes nothing if the new
value is no text, or is one from which the setting cannot be read. Among the variables that name the
environment the first that has a text decides alone, over the environment and over the logging
settings: whatever the others come to hold, the settings stay the same, so that a change behind
another one that has a text does not show, and an unknown name in the first of them means
development. -/
theorem variables_are_independent {name : String} (h : AgreeOff name vars vars') :
    (∀ l ∈ App.leaves, ¬Governs name l.path → l.get vars'.app = l.get vars.app)
      ∧ ((∀ path, ¬Governs name path) → vars'.app = vars.app)
      ∧ (∀ l ∈ App.leaves, Governs name l.path →
        ∃ text, l.get (app [(name, some text)]) ≠ l.get (app []))
      ∧ (vars.lookup name = none →
        (vars'.lookup name = some none
          ∨ ∃ text, vars'.lookup name = some (some text) ∧ isReadable name text = false) →
        vars'.app = vars.app)
      ∧ (∀ text, environmentNames.findSome? vars.text? = some text →
        vars.app.environment = (Environment.parse text).toOption.getD .development
          ∧ vars.app.logging
            = vars.loggingFor ((Environment.parse text).toOption.getD .development))
      ∧ (∀ others : Variables,
        environmentNames.findSome? others.text? = environmentNames.findSome? vars.text? →
        (∀ other, other ∉ environmentNames → others.lookup other = vars.lookup other) →
        others.app = vars.app)
      ∧ (∀ before after, environmentNames = before ++ name :: after →
        (∃ earlier ∈ before, (vars.text? earlier).isSome) → vars'.app = vars.app)
      ∧ ∀ text, vars.text? "ENVIRONMENT" = some text → (Environment.parse text).isOk = false →
        vars.app.environment = .development
          ∧ vars.app.logging = vars.loggingFor .development := by
  refine ⟨fun l hl => get_app_of_agreeOff h hl,
    fun hnothing => Leafy.ext fun l hl => get_app_of_agreeOff h hl (hnothing l.path),
    fun l hl hgoverns => ⟨_, get_app_ne hl hgoverns⟩,
    fun hunset hvalue => app_of_agreeOff h ?_,
    fun _ hfirst => ⟨environment_of_first hfirst, logging_of_first hfirst⟩,
    fun _ => app_of_first, fun _ _ => app_of_shadowed h,
    fun text htext hunknown => ?_⟩
  · rw [said?_eq_none_iff.2 (.inl hunset), said?_eq_none_iff.2 (.inr hvalue)]
  · have hfirst : environmentNames.findSome? vars.text? = some text := by
      rw [environmentNames, List.findSome?_cons, htext]
    have henvironment := environment_of_first hfirst
    have hlogging := logging_of_first hfirst
    rw [toOption_of_not_isOk hunknown] at henvironment hlogging
    exact ⟨henvironment, hlogging⟩

/-- A port out of range changes nothing. An unknown environment means development, also for the
logging settings and whatever the next variables name. -/
theorem port_out_of_range_changes_nothing :
    let vars : Variables := [("ENVIRONMENT", some "nowhere"), ("ENV", some "production")]
    let vars' : Variables := ("SERVER_PORT", some "65536") :: vars
    let others : Variables := [("ENVIRONMENT", some "nowhere"), ("RUST_ENV", some "test")]
    AgreeOff "SERVER_PORT" vars vars' ∧ vars.lookup "SERVER_PORT" = none
      ∧ vars'.lookup "SERVER_PORT" = some (some "65536")
      ∧ isReadable "SERVER_PORT" "65536" = false ∧ vars'.app = vars.app
      ∧ vars.text? "ENVIRONMENT" = some "nowhere" ∧ (Environment.parse "nowhere").isOk = false
      ∧ vars.app.environment = .development
      ∧ vars.app.logging = Logging.ofEnvironment .development
      ∧ Logging.ofEnvironment .development ≠ Logging.ofEnvironment .production
      ∧ others.app = vars.app := by
  intro vars vars' others
  have hagree : AgreeOff "SERVER_PORT" vars vars' := agreeOff_cons _ _ _
  obtain ⟨-, -, -, hunreadable, -, hfirst, -, hunknown⟩ := variables_are_independent hagree
  have hunset : vars.lookup "SERVER_PORT" = none := by decide
  have hset : vars'.lookup "SERVER_PORT" = some (some "65536") := by decide
  have hport : isReadable "SERVER_PORT" "65536" = false := by decide +kernel
  have hname : (Environment.parse "nowhere").isOk = false := by decide +kernel
  have hothers : ∀ other, other ∉ environmentNames → others.lookup other = vars.lookup other := by
    intro other hother
    simp only [environmentNames, List.mem_cons, List.not_mem_nil, or_false, not_or,
      ← beq_eq_false_iff_ne] at hother
    simp only [others, vars, List.lookup_cons, hother, List.lookup_nil]
  obtain ⟨henvironment, hlogging⟩ := hunknown _ rfl hname
  exact ⟨hagree, hunset, hset, hport, hunreadable hunset (.inr ⟨_, hset, hport⟩), rfl, hname,
    henvironment, hlogging, by decide, hfirst others rfl hothers⟩

end Passcode.Settings.Variables
