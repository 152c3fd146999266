import LineShell.Settings.Basic
import Mathlib

/-!
# Settings, one by one

`Settings.load` lays whole layers over each other. This module looks at one setting at a time: which
of its sources settles it, and that nothing else has a part in it. The bindings may be any; those of
a machine are its variables and the lines of its env file (`Settings.loadOn`).

* `Setting` names the settings. Each has a variable (`Setting.variableName`), a reading of the texts
  that are given for it (`Setting.read`), and a default;
* `Setting.IsNamed`: a name is that of the variable in letters of either case. No name is that of
  two settings (`Setting.IsNamed.unique`);
* `Setting.Told`: the last binding of the variable gives a text. Only the bindings of the variable
  count (`Setting.own`, `Setting.text?_congr`);
* `Setting.Settled` is the rule, with a case for each of the four sources, and `settled_iff` says
  that the layers come to the same;
* `load_settles_each` puts this together.
-/

namespace LineShell

open EnvFile

/-! ## 1. The settings -/

/-- The settings of the shell. -/
inductive Setting where
  | prompt
  | startDirectory
  | searchPath
  | home
  | logLevel
  | logProfile
  deriving DecidableEq, Repr

namespace Setting

/-- What a setting is. -/
abbrev Value : Setting → Type
  | .prompt => String
  | .startDirectory => Path
  | .searchPath => Option String
  | .home => Option Path
  | .logLevel => String
  | .logProfile => String

/-- What a text says of a setting. -/
def read : (f : Setting) → String → f.Value
  | .prompt, text => text
  | .startDirectory, text => Path.ofText text
  | .searchPath, text => some text
  | .home, text => some (Path.ofText text)
  | .logLevel, text => text
  | .logProfile, text => text

/-- What a setting is when nothing is said of it. -/
def default : (f : Setting) → f.Value
  | .prompt => "$ "
  | .startDirectory => .root
  | .searchPath => none
  | .home => none
  | .logLevel => "WARNING"
  | .logProfile => "default"

/-- The variable of a setting, in capital letters. -/
def variableName : Setting → String
  | .prompt => "TINYSH_PROMPT"
  | .startDirectory => "TINYSH_START_DIR"
  | .searchPath => "TINYSH_SEARCH_PATH"
  | .home => "TINYSH_HOME"
  | .logLevel => "TINYSH_LOG_LEVEL"
  | .logProfile => "TINYSH_LOG_PROFILE"

/-- The variable of a setting, in small letters. -/
def key : Setting → String
  | .prompt => "tinysh_prompt"
  | .startDirectory => "tinysh_start_dir"
  | .searchPath => "tinysh_search_path"
  | .home => "tinysh_home"
  | .logLevel => "tinysh_log_level"
  | .logProfile => "tinysh_log_profile"

end Setting

/-- One of the settings. -/
def Settings.value (s : Settings) : (f : Setting) → f.Value
  | .prompt => s.prompt
  | .startDirectory => s.startDirectory
  | .searchPath => s.searchPath
  | .home => s.home
  | .logLevel => s.logLevel
  | .logProfile => s.logProfile

/-- The text that a layer has for a setting. -/
def Layer.text? (l : Layer) : Setting → Option String
  | .prompt => l.prompt
  | .startDirectory => l.startDirectory
  | .searchPath => l.searchPath
  | .home => l.home
  | .logLevel => l.logLevel
  | .logProfile => l.logProfile

/-- The variables of an environment; each has a value. -/
def Environment.bindings (env : Environment) : List Binding := env.map fun v => (v.1, some v.2)

/-- Settings that agree on each setting are the same. -/
theorem Settings.eq_of_value {s t : Settings} (h : ∀ f, s.value f = t.value f) : s = t := by
  obtain ⟨prompt, startDirectory, searchPath, home, logLevel, logProfile⟩ := s
  obtain ⟨prompt', startDirectory', searchPath', home', logLevel', logProfile'⟩ := t
  have hprompt : prompt = prompt' := h .prompt
  have hstart : startDirectory = startDirectory' := h .startDirectory
  have hsearch : searchPath = searchPath' := h .searchPath
  have hhome : home = home' := h .home
  have hlevel : logLevel = logLevel' := h .logLevel
  have hprofile : logProfile = logProfile' := h .logProfile
  subst hprompt hstart hsearch hhome hlevel hprofile
  rfl

theorem Layer.text?_or (upper lower : Layer) (f : Setting) :
    (upper.or lower).text? f = (upper.text? f).or (lower.text? f) := by
  cases f <;> rfl

theorem Layer.value_settings (l : Layer) (f : Setting) :
    l.settings.value f = ((l.text? f).map f.read).getD f.default := by
  obtain ⟨prompt, startDirectory, searchPath, home, logLevel, logProfile⟩ := l
  cases f with
  | prompt => cases prompt <;> rfl
  | startDirectory => cases startDirectory <;> rfl
  | searchPath => cases searchPath <;> rfl
  | home => cases home <;> rfl
  | logLevel => cases logLevel <;> rfl
  | logProfile => cases logProfile <;> rfl

/-! ## 2. Names in either case -/

/-- A character that is the same as `d` in small letters, where `d` is no small letter, is `d` or the
    small letter of its kind. -/
theorem toLower_eq_iff {c d : Char} (hd : d.isLower = false) :
    c.toLower = d.toLower ↔ c = d ∨ c = d.toLower := by
  have hupper : d.toUpper = d := Char.toUpper_eq_of_not_isLower (Bool.eq_false_iff.mp hd)
  constructor
  · intro h
    by_cases hc : c.isUpper = true
    · left
      calc c
          = c.toUpper := (Char.toUpper_eq_of_not_isLower (Char.not_isLower_of_isUpper hc)).symm
        _ = d.toLower.toUpper := by rw [← c.toUpper_toLower_eq_toUpper, h]
        _ = d := by rw [d.toUpper_toLower_eq_toUpper, hupper]
    · right
      rw [← h, Char.toLower_eq_of_not_isUpper hc]
  · rintro (rfl | rfl)
    · rfl
    · exact d.toLower_toLower_eq_toLower

/-- Two texts, the second one without small letters, are the same in small letters if they are so
    character by character. -/
theorem forall₂_iff_map_toLower {cs ds : List Char} (hds : ∀ d ∈ ds, d.isLower = false) :
    List.Forall₂ (fun c d => c = d ∨ c = d.toLower) cs ds ↔
      cs.map Char.toLower = ds.map Char.toLower := by
  induction ds generalizing cs with
  | nil => cases cs <;> simp
  | cons d ds ih =>
    cases cs with
    | nil => simp
    | cons c cs =>
      have hd := hds d List.mem_cons_self
      have hrest : ∀ e ∈ ds, e.isLower = false := fun e he => hds e (List.mem_cons_of_mem _ he)
      rw [List.forall₂_cons, ih hrest, List.map_cons, List.map_cons, List.cons.injEq,
        toLower_eq_iff hd]

namespace Setting

/-- The name is that of the variable of a setting: each of its letters is the one of the variable or
    the small letter of its kind. -/
def IsNamed (f : Setting) (name : String) : Prop :=
  List.Forall₂ (fun c d => c = d ∨ c = d.toLower) name.toList f.variableName.toList

/-- No variable has a small letter in its name. -/
theorem isLower_of_mem_variableName (f : Setting) :
    ∀ d ∈ f.variableName.toList, d.isLower = false := by
  -- a test of the list: deciding the statement as it stands would go through all characters
  have hall : (f.variableName.toList.all fun d => !d.isLower) = true := by cases f <;> decide
  intro d hd
  simpa using List.all_eq_true.mp hall d hd

theorem lower_variableName (f : Setting) : Layer.lower f.variableName = f.key := by
  cases f <;> decide +kernel

/-- The names of a variable are those that are the same in small letters. -/
theorem isNamed_iff {f : Setting} {name : String} :
    f.IsNamed name ↔ Layer.lower name = f.key := by
  rw [IsNamed, forall₂_iff_map_toLower f.isLower_of_mem_variableName, ← lower_variableName,
    Layer.lower, Layer.lower, ← String.toList_inj, String.toList_map, String.toList_map]

instance (f : Setting) (name : String) : Decidable (f.IsNamed name) :=
  decidable_of_iff _ isNamed_iff.symm

theorem key_injective {f g : Setting} (h : f.key = g.key) : f = g := by
  revert h
  cases f <;> cases g <;> simp [key]

/-- **No name is that of two settings.** -/
theorem IsNamed.unique {f g : Setting} {name : String} (hf : f.IsNamed name)
    (hg : g.IsNamed name) : f = g :=
  key_injective ((isNamed_iff.mp hf).symm.trans (isNamed_iff.mp hg))

/-! ## 3. What bindings say -/

/-- Bindings give a text for a setting: the last binding of its variable has this value. -/
def Told (f : Setting) (bindings : List Binding) (text : String) : Prop :=
  ∃ before name after, bindings = before ++ (name, some text) :: after ∧ f.IsNamed name ∧
    ∀ b ∈ after, ¬ f.IsNamed b.1

/-- The bindings of the variable of a setting. -/
def own (f : Setting) (bindings : List Binding) : List Binding :=
  bindings.filter fun b => f.IsNamed b.1

theorem text?_ofBindings (bindings : List Binding) (f : Setting) :
    (Layer.ofBindings bindings).text? f = (f.own bindings).getLast?.bind (·.2) := by
  have hlookup : (Layer.ofBindings bindings).text? f = Layer.lookup? bindings f.key := by
    cases f <;> rfl
  rw [hlookup, Layer.lookup?, own, List.getLast?_filter]
  simp only [isNamed_iff]

/-- The layer of bindings has the text that they give. -/
theorem told_iff {f : Setting} {bindings : List Binding} {text : String} :
    f.Told bindings text ↔ (Layer.ofBindings bindings).text? f = some text := by
  rw [text?_ofBindings]
  constructor
  · rintro ⟨before, name, after, rfl, hname, hafter⟩
    have hnone : f.own after = [] := by
      simpa [own, List.filter_eq_nil_iff] using hafter
    have hown : f.own (before ++ (name, some text) :: after) =
        f.own before ++ [(name, some text)] := by
      rw [own, List.filter_append, List.filter_cons_of_pos (by simpa using hname)]
      exact congrArg (fun rest => f.own before ++ (name, some text) :: rest) hnone
    rw [hown, List.getLast?_concat]
    rfl
  · intro h
    obtain ⟨⟨name, value⟩, hlast, hvalue⟩ := Option.bind_eq_some_iff.mp h
    have hvalue : value = some text := hvalue
    subst hvalue
    rw [own, List.getLast?_filter, List.find?_eq_some_iff_append] at hlast
    obtain ⟨hname, after, before, hreverse, hafter⟩ := hlast
    refine ⟨before.reverse, name, after.reverse, ?_, by simpa using hname, fun b hb => ?_⟩
    · rw [← List.reverse_reverse bindings, hreverse]
      simp
    · simpa using hafter b (List.mem_reverse.mp hb)

/-- Only the bindings of its own variable have a part in what is said of a setting. -/
theorem text?_congr {f : Setting} {bindings others : List Binding}
    (h : f.own bindings = f.own others) :
    (Layer.ofBindings bindings).text? f = (Layer.ofBindings others).text? f := by
  rw [text?_ofBindings, text?_ofBindings, h]

/-! ## 4. What settles a setting -/

/-- What a setting is, given what the caller says of it and the bindings of the environment and of
    the env file: the first of the three that says something settles it, and else the default. -/
inductive Settled (f : Setting) (given : Option String) (environment file : List Binding) :
    f.Value → Prop where
  | given {text : String} (hgiven : given = some text) :
      Settled f given environment file (f.read text)
  | environment {text : String} (hgiven : given = none) (htold : f.Told environment text) :
      Settled f given environment file (f.read text)
  | file {text : String} (hgiven : given = none) (henvironment : ∀ t, ¬ f.Told environment t)
      (htold : f.Told file text) : Settled f given environment file (f.read text)
  | default (hgiven : given = none) (henvironment : ∀ t, ¬ f.Told environment t)
      (hfile : ∀ t, ¬ f.Told file t) : Settled f given environment file f.default

theorem not_told_iff {f : Setting} {bindings : List Binding} :
    (∀ t, ¬ f.Told bindings t) ↔ (Layer.ofBindings bindings).text? f = none := by
  simp only [told_iff, Option.eq_none_iff_forall_ne_some, ne_eq]

/-- **The layers over each other** come to what settles the setting. -/
theorem settled_iff {f : Setting} {given : Option String} {environment file : List Binding}
    {value : f.Value} :
    f.Settled given environment file value ↔
      value = ((given.or (((Layer.ofBindings environment).or (.ofBindings file)).text? f)).map
        f.read).getD f.default := by
  rw [Layer.text?_or]
  constructor
  · intro h
    cases h with
    | given hgiven => simp [hgiven]
    | environment hgiven htold => simp [hgiven, told_iff.mp htold]
    | file hgiven henvironment htold =>
      simp [hgiven, not_told_iff.mp henvironment, told_iff.mp htold]
    | default hgiven henvironment hfile =>
      simp [hgiven, not_told_iff.mp henvironment, not_told_iff.mp hfile]
  · rintro rfl
    cases hgiven : given with
    | some text => exact .given rfl
    | none =>
      cases henvironment : (Layer.ofBindings environment).text? f with
      | some text => exact .environment rfl (told_iff.mpr henvironment)
      | none =>
        cases hfile : (Layer.ofBindings file).text? f with
        | some text => exact .file rfl (not_told_iff.mpr henvironment) (told_iff.mpr hfile)
        | none => exact .default rfl (not_told_iff.mpr henvironment) (not_told_iff.mpr hfile)

/-- What settles a setting, as the settings of the layers have it. -/
theorem settled_layers_iff {f : Setting} {given : Layer} {env : Environment}
    {file : List Binding} {value : f.Value} :
    f.Settled (given.text? f) env.bindings file value ↔
      value = (given.or ((Layer.ofEnvironment env).or (.ofBindings file))).settings.value f := by
  simp only [settled_iff, Layer.value_settings, Layer.text?_or]
  rfl

/-- A setting of which the caller says nothing. -/
theorem settled_none_iff {f : Setting} {env : Environment} {file : List Binding}
    {value : f.Value} :
    f.Settled none env.bindings file value ↔
      value = ((Layer.ofEnvironment env).or (.ofBindings file)).settings.value f := by
  rw [settled_iff, Layer.value_settings]
  rfl

end Setting

/-! ## 5. Loading -/

namespace Settings

section

variable {given : Layer} {env : Environment} {file : List Binding}

theorem load_eq (given environment file : Layer) :
    load given environment file =
      if (environment.or file).settings.logProfile ∈ profiles then
        .ok (given.or (environment.or file)).settings
      else .error (.unknownProfile (environment.or file).settings.logProfile) := by
  simp only [load, List.contains_iff_mem]

/-- **Settings are loaded** exactly if the log profile that the environment, the env file and the
    default settle on exists; each setting is then what settles it. -/
theorem load_eq_ok_iff {s : Settings} :
    load given (.ofEnvironment env) (.ofBindings file) = .ok s ↔
      (∃ p, Setting.Settled .logProfile none env.bindings file p ∧ p ∈ profiles) ∧
        ∀ f : Setting, f.Settled (given.text? f) env.bindings file (s.value f) := by
  have hsettled : (∀ f : Setting, f.Settled (given.text? f) env.bindings file (s.value f)) ↔
      s = (given.or ((Layer.ofEnvironment env).or (.ofBindings file))).settings := by
    simp only [Setting.settled_layers_iff]
    exact ⟨eq_of_value, fun h f => h ▸ rfl⟩
  rw [hsettled]
  simp only [Setting.settled_none_iff, exists_eq_left, value, load_eq]
  split
  · next hprofile => simp [hprofile, eq_comm]
  · next hprofile => simp [hprofile]

/-- They are not loaded exactly if that log profile does not exist, whatever the caller says. -/
theorem load_eq_error_iff {e : SettingsError} :
    load given (.ofEnvironment env) (.ofBindings file) = .error e ↔
      ∃ p, Setting.Settled .logProfile none env.bindings file p ∧ p ∉ profiles ∧
        e = .unknownProfile p := by
  simp only [Setting.settled_none_iff, exists_eq_left, value, load_eq]
  split
  · next hprofile => simp [hprofile]
  · next hprofile => simp [hprofile, eq_comm]

end

/-- **Each setting has one source.** Settings are loaded exactly if the log profile is one of the
    two there are, as the environment, the env file and the default settle it; what the caller says
    has no part in that. Each of them is then what the caller says, though it be the empty text, or
    else the value of its variable in the environment, in letters of either case, or else that in
    the env file, or else its default. So a setting stays the same whatever is said of the others
    and whatever other variables there are, since no variable is that of two settings. -/
theorem load_settles_each (given : Layer) (env : Environment) (file : List Binding) :
    (∀ s, load given (.ofEnvironment env) (.ofBindings file) = .ok s ↔
      (∃ p, Setting.Settled .logProfile none env.bindings file p ∧
        (p = "default" ∨ p = "rich")) ∧
        ∀ f : Setting, f.Settled (given.text? f) env.bindings file (s.value f)) ∧
      (∀ e, load given (.ofEnvironment env) (.ofBindings file) = .error e ↔
        ∃ p, Setting.Settled .logProfile none env.bindings file p ∧
          ¬ (p = "default" ∨ p = "rich") ∧ e = .unknownProfile p) ∧
      (∀ other : Layer,
        (∃ e, load given (.ofEnvironment env) (.ofBindings file) = .error e) ↔
          ∃ e, load other (.ofEnvironment env) (.ofBindings file) = .error e) ∧
      (∀ (f : Setting) (given' : Layer) (env' : Environment) (file' : List Binding)
        (s s' : Settings),
        given.text? f = given'.text? f → f.own env.bindings = f.own env'.bindings →
        f.own file = f.own file' →
        load given (.ofEnvironment env) (.ofBindings file) = .ok s →
        load given' (.ofEnvironment env') (.ofBindings file') = .ok s' →
        s.value f = s'.value f) ∧
      ∀ (f g : Setting) (name : String), f.IsNamed name → g.IsNamed name → f = g := by
  have hprofiles : ∀ p : String, p = "default" ∨ p = "rich" ↔ p ∈ profiles := fun p => by
    simp [profiles]
  simp only [hprofiles]
  refine ⟨fun s => load_eq_ok_iff, fun e => load_eq_error_iff, fun other => ?_, ?_,
    fun f g name => Setting.IsNamed.unique⟩
  · simp only [load_eq_error_iff]
  · intro f given' env' file' s s' hgiven henv hfile hload hload'
    have hs := Setting.settled_iff.mp ((load_eq_ok_iff.mp hload).2 f)
    have hs' := Setting.settled_iff.mp ((load_eq_ok_iff.mp hload').2 f)
    rw [hs, hs', hgiven, Layer.text?_or, Layer.text?_or, Setting.text?_congr henv,
      Setting.text?_congr hfile]

/-- An environment that names one variable twice, in letters of either case. -/
def manyVariables : Environment :=
  [("Tinysh_Home", "/h"), ("TINYSH_LOG_LEVEL", "INFO"), ("tinysh_log_level", "DEBUG"),
    ("TINYSH_PROMPT", "> ")]

/-- An env file with a variable whose last binding has no value, and with one that is no setting. -/
def manyBindings : List Binding :=
  [("TINYSH_LOG_PROFILE", some "rich"), ("TINYSH_LOG_LEVEL", some "ERROR"),
    ("TINYSH_SEARCH_PATH", some "/bin"), ("tinysh_search_path", none), ("PROMPT", some "x")]

/-- What they come to, with an empty prompt from the caller. -/
def manySettings : Settings where
  prompt := ""
  home := some (Path.ofText "/h")
  logLevel := "DEBUG"
  logProfile := "rich"

/-- What the environment comes to, with nothing from the caller and an env file of one line. -/
def plainSettings : Settings where
  prompt := "> "
  home := some (Path.ofText "/h")
  logLevel := "DEBUG"

/-- An empty prompt is a prompt; and the level, for which the environment speaks, stays what it is
    with another prompt, another log profile and fewer lines in the env file. -/
theorem load_settles_each_empty :
    load { prompt := some "" } (.ofEnvironment manyVariables) (.ofBindings manyBindings) =
        .ok manySettings ∧
      Setting.Settled .prompt (some "") manyVariables.bindings manyBindings "" ∧
      load {} (.ofEnvironment manyVariables) (.ofBindings [("TINYSH_LOG_LEVEL", some "ERROR")]) =
        .ok plainSettings ∧
      Setting.own .logLevel manyBindings =
        Setting.own .logLevel [("TINYSH_LOG_LEVEL", some "ERROR")] ∧
      manySettings.value .logLevel = plainSettings.value .logLevel := by
  have hload : load { prompt := some "" } (.ofEnvironment manyVariables)
      (.ofBindings manyBindings) = .ok manySettings := by decide +kernel
  have hplain : load {} (.ofEnvironment manyVariables)
      (.ofBindings [("TINYSH_LOG_LEVEL", some "ERROR")]) = .ok plainSettings := by decide +kernel
  have hfile : Setting.own .logLevel manyBindings =
      Setting.own .logLevel [("TINYSH_LOG_LEVEL", some "ERROR")] := by decide +kernel
  obtain ⟨hok, -, -, hown, -⟩ :=
    load_settles_each { prompt := some "" } manyVariables manyBindings
  exact ⟨hload, ((hok _).mp hload).2 .prompt, hplain, hfile,
    hown .logLevel {} manyVariables _ _ _ rfl rfl hfile hload hplain⟩

end Settings

end LineShell
