import LuaAssist.Session
import Mathlib.Data.List.TakeWhile

/-!
# Settings that an editor sends

Each setting has its keys in what an editor sends, the kind of value that it takes, and values
of that kind that make no sense. A value that is missing or refused leaves the setting alone and
any other is taken over, so settings stay valid, and sending the same once more changes nothing:
a session then keeps what it has read.
-/

namespace LuaAssist

/-- The value that some keys lead to, one after the other. -/
def Json.at? (json : Json) (keys : List String) : Option Json :=
  keys.foldl (fun found key => found.bind (·.get? key)) (some json)

namespace Config

/-! ## The settings -/

/-- The settings, by name. -/
inductive Field where
  | extension
  | placeholder
  | whenIdle
  | documentation
  | indentSize
  | capacity
  | builtins
  | diagnostics
  | severity
  deriving DecidableEq, Repr

namespace Field

/-- The keys of a setting. -/
def keys : Field → List String
  | extension => ["sourceExtension"]
  | placeholder => ["pathPlaceholder"]
  | whenIdle => ["idleCompletion"]
  | documentation => ["documentationDir"]
  | indentSize => ["indentSize"]
  | capacity => ["contentCacheCapacity"]
  | builtins => ["builtins", "enabled"]
  | diagnostics => ["diagnostics", "enabled"]
  | severity => ["diagnostics", "unresolvedRequireSeverity"]

/-- What an editor has sent for a setting, under the wrapping key if that is there. -/
def sent? (field : Field) (sent : Json) : Option Json :=
  ((sent.get? wrapper).getD sent).at? field.keys

/-- A setting is the same in two configurations. -/
def Same (first second : Config) : Field → Prop
  | extension => first.extension = second.extension
  | placeholder => first.placeholder = second.placeholder
  | whenIdle => first.whenIdle = second.whenIdle
  | documentation => first.documentation = second.documentation
  | indentSize => first.indentSize = second.indentSize
  | capacity => first.capacity = second.capacity
  | builtins => first.builtins = second.builtins
  | diagnostics => first.diagnostics = second.diagnostics
  | severity => first.severity = second.severity

/-- The value is of the kind that a setting takes: a text, a truth value, or a whole number
that a size can be. -/
def OfKind : Field → Json → Prop
  | extension, value | placeholder, value | documentation, value | severity, value =>
    ∃ written, value = .text written
  | whenIdle, value | builtins, value | diagnostics, value => ∃ truth, value = .bool truth
  | indentSize, value | capacity, value => ∃ size : Nat, value = .int size ∧ size ≤ sizeLimit

/-- The value is of the right kind and makes no sense: an extension of dots only, a placeholder
that is not exactly one character, a size of zero. -/
def Senseless : Field → Json → Prop
  | extension, .text written => ∀ c ∈ written, c = '.'
  | placeholder, .text written => written.length ≠ 1
  | indentSize, .int size | capacity, .int size => size = 0
  | _, _ => False

/-- A value that leaves a setting alone. -/
def Refuses (field : Field) (value : Json) : Prop := ¬field.OfKind value ∨ field.Senseless value

/-- A setting is what a value says. -/
def Holds (config : Config) : Field → Json → Prop
  | extension, .text written => config.extension = written.dropWhile (· = '.')
  | placeholder, .text written => written = [config.placeholder]
  | whenIdle, .bool truth => config.whenIdle = truth
  | documentation, .text written => config.documentation =
      if written = [] ∨ '\x00' ∈ written then none else some ⟨written⟩
  | indentSize, .int size => (config.indentSize : Int) = size
  | capacity, .int size => (config.capacity : Int) = size
  | builtins, .bool truth => config.builtins = truth
  | diagnostics, .bool truth => config.diagnostics = truth
  | severity, .text written => config.severity = .ofWord written
  | _, _ => False

end Field

/-- What holds of the settings whatever an editor sends. -/
structure IsValid (config : Config) : Prop where
  extension_ne_nil : config.extension ≠ []
  head?_extension : config.extension.head? ≠ some '.'
  one_le_indentSize : 1 ≤ config.indentSize
  one_le_capacity : 1 ≤ config.capacity
  documentation : ∀ directory ∈ config.documentation, directory.text ≠ [] ∧
    '\x00' ∉ directory.text

/-! ## Reading one value -/

variable {value : Json}

/-- Only a truth value is read as one. -/
theorem bool?_eq_some {truth : Bool} : value.bool? = some truth ↔ value = .bool truth := by
  cases value <;> simp [Json.bool?]

/-- Only a text is read as one. -/
theorem text?_eq_some {written : Text} : value.text? = some written ↔ value = .text written := by
  cases value <;> simp [Json.text?]

/-- An extension is what stands behind the front dots of a text, if anything does. -/
theorem extension?_eq_some {extension : Text} :
    extension? value = some extension ↔ ∃ written, value = .text written ∧
      written.dropWhile (· = '.') = extension ∧ extension ≠ [] := by
  cases value with
  | text written =>
    simp only [extension?, Json.text?, Option.bind_eq_bind, Option.bind_some, List.isEmpty_iff,
      Option.ite_none_left_eq_some, Option.some.injEq, Json.text.injEq, exists_eq_left']
    constructor
    · rintro ⟨hne, rfl⟩
      exact ⟨rfl, hne⟩
    · rintro ⟨rfl, hne⟩
      exact ⟨hne, rfl⟩
  | _ => simp [extension?, Json.text?]

/-- A placeholder is a text of one character. -/
theorem placeholder?_eq_some {c : Char} : placeholder? value = some c ↔ value = .text [c] := by
  cases value with
  | text written => rcases written with _ | ⟨d, _ | _⟩ <;> simp [placeholder?, Json.text?]
  | _ => simp [placeholder?, Json.text?]

/-- A directory is a text that can be a path; other texts mean none. -/
theorem documentation?_eq_some {directory : Option Path} :
    documentation? value = some directory ↔ ∃ written, value = .text written ∧
      (if written = [] ∨ '\x00' ∈ written then none else some ⟨written⟩) = directory := by
  cases value with
  | text written =>
    by_cases hnone : written = [] ∨ '\x00' ∈ written <;>
      simp [documentation?, Json.text?, List.isEmpty_iff, hnone]
  | _ => simp [documentation?, Json.text?]

/-- A size is a whole number above zero and up to the limit. -/
theorem size?_eq_some {size : Nat} :
    size? value = some size ↔ value = .int size ∧ size ≠ 0 ∧ size ≤ sizeLimit := by
  cases value with
  | int number =>
    simp only [size?, Json.natUpTo?, Json.int?, Option.bind_eq_bind, Option.bind_some,
      Json.int.injEq, Bool.and_eq_true, decide_eq_true_eq]
    split
    · simp only [Option.bind_some]
      split <;> simp <;> omega
    · simp
      omega
  | _ => simp [size?, Json.natUpTo?, Json.int?]

/-! ## Taking over what is sent -/

variable {α : Type} {found : Option Json} {read? : Json → Option α} {old : α}

/-- A setting stays if nothing of what is found can be read. -/
theorem getD_bind_of_unread (hunread : ∀ value ∈ found, ∀ new, read? value ≠ some new) :
    (found.bind read?).getD old = old := by
  cases found with
  | none => rfl
  | some value =>
    rw [Option.bind_some, Option.eq_none_iff_forall_ne_some.mpr (hunread value rfl),
      Option.getD_none]

/-- A setting becomes what is read. -/
theorem getD_bind_of_read {new : α} (hfound : value ∈ found) (hread : read? value = some new) :
    (found.bind read?).getD old = new := by
  rw [Option.mem_def.mp hfound, Option.bind_some, hread, Option.getD_some]

/-- A setting keeps what holds of it and of everything that can be read. -/
theorem of_getD_bind {p : α → Prop} (hold : p old)
    (hread : ∀ value new, read? value = some new → p new) : p ((found.bind read?).getD old) := by
  rcases hnew : found.bind read? with _ | new
  · exact hold
  · obtain ⟨value, _, hvalue⟩ := Option.bind_eq_some_iff.mp hnew
    exact hread value new hvalue

/-- What is taken over twice is taken over once. -/
theorem getD_getD (new : Option α) (old : α) : new.getD (new.getD old) = new.getD old := by
  cases new <;> rfl

variable {config : Config} {sent : Json} {field : Field}

/-- The severity that is sent, read in one go. -/
theorem severity_update (config : Config) (sent : Json) : (config.update sent).severity =
    ((Field.severity.sent? sent).bind fun value => value.text?.map Severity.ofWord).getD
      config.severity :=
  congrArg (·.getD config.severity) Option.map_bind

/-- A setting stays if nothing is sent for it, or only a value that it refuses. -/
theorem same_update (hrefused : ∀ value ∈ field.sent? sent, field.Refuses value) :
    field.Same (config.update sent) config := by
  have hkind : ∀ value ∈ field.sent? sent, field.OfKind value → field.Senseless value :=
    fun value hvalue hofKind => (hrefused value hvalue).resolve_left (not_not_intro hofKind)
  cases field with
  | extension =>
    refine getD_bind_of_unread fun value hvalue new hread => ?_
    obtain ⟨written, rfl, rfl, hne⟩ := extension?_eq_some.mp hread
    have hdots := hkind _ hvalue ⟨written, rfl⟩
    exact hne (List.dropWhile_eq_nil_iff.mpr fun c hc => decide_eq_true (hdots c hc))
  | placeholder =>
    refine getD_bind_of_unread fun value hvalue new hread => ?_
    obtain rfl := placeholder?_eq_some.mp hread
    exact hkind _ hvalue ⟨_, rfl⟩ rfl
  | documentation =>
    refine getD_bind_of_unread fun value hvalue new hread => ?_
    obtain ⟨written, rfl, _⟩ := documentation?_eq_some.mp hread
    exact hkind _ hvalue ⟨written, rfl⟩
  | severity =>
    refine (severity_update config sent).trans
      (getD_bind_of_unread fun value hvalue new hread => ?_)
    obtain ⟨written, hwritten, _⟩ := Option.map_eq_some_iff.mp hread
    exact hkind _ hvalue ⟨written, text?_eq_some.mp hwritten⟩
  | indentSize | capacity =>
    refine getD_bind_of_unread fun value hvalue new hread => ?_
    obtain ⟨rfl, hne, hle⟩ := size?_eq_some.mp hread
    exact hne (Int.ofNat_eq_zero.mp (hkind _ hvalue ⟨new, rfl, hle⟩))
  | whenIdle | builtins | diagnostics =>
    refine getD_bind_of_unread fun value hvalue new hread => ?_
    exact hkind _ hvalue ⟨new, bool?_eq_some.mp hread⟩

/-- A setting is what is sent for it, unless it refuses that. -/
theorem holds_update (hsent : value ∈ field.sent? sent) (htaken : ¬field.Refuses value) :
    field.Holds (config.update sent) value := by
  obtain ⟨hkind, hsense⟩ := not_or.mp htaken
  rw [not_not] at hkind
  cases field with
  | extension =>
    obtain ⟨written, rfl⟩ := hkind
    refine getD_bind_of_read hsent (extension?_eq_some.mpr ⟨written, rfl, rfl, fun hnil => ?_⟩)
    exact hsense fun c hc => of_decide_eq_true (List.dropWhile_eq_nil_iff.mp hnil c hc)
  | placeholder =>
    obtain ⟨written, rfl⟩ := hkind
    obtain ⟨c, rfl⟩ := List.length_eq_one_iff.mp (not_not.mp hsense)
    exact congrArg ([·]) (getD_bind_of_read hsent (placeholder?_eq_some.mpr rfl)).symm
  | documentation =>
    obtain ⟨written, rfl⟩ := hkind
    exact getD_bind_of_read hsent (documentation?_eq_some.mpr ⟨written, rfl, rfl⟩)
  | severity =>
    obtain ⟨written, rfl⟩ := hkind
    exact (severity_update config sent).trans (getD_bind_of_read hsent rfl)
  | indentSize | capacity =>
    obtain ⟨size, rfl, hle⟩ := hkind
    refine congrArg Int.ofNat (getD_bind_of_read hsent (size?_eq_some.mpr ⟨rfl, ?_, hle⟩))
    rintro rfl
    exact hsense rfl
  | whenIdle | builtins | diagnostics =>
    obtain ⟨truth, rfl⟩ := hkind
    exact getD_bind_of_read hsent rfl

/-- Settings stay valid. -/
theorem IsValid.update (hvalid : config.IsValid) (sent : Json) : (config.update sent).IsValid where
  extension_ne_nil := by
    refine of_getD_bind (p := (· ≠ [])) hvalid.extension_ne_nil fun value new hread => ?_
    obtain ⟨_, _, _, hne⟩ := extension?_eq_some.mp hread
    exact hne
  head?_extension := by
    refine of_getD_bind (p := fun new : Text => new.head? ≠ some '.') hvalid.head?_extension
      fun value new hread hdot => ?_
    obtain ⟨written, _, rfl, _⟩ := extension?_eq_some.mp hread
    have hfront := List.head?_dropWhile_not (fun c => decide (c = '.')) written
    rw [hdot] at hfront
    cases hfront
  one_le_indentSize := by
    refine of_getD_bind (p := (1 ≤ ·)) hvalid.one_le_indentSize fun value new hread => ?_
    exact Nat.one_le_iff_ne_zero.mpr (size?_eq_some.mp hread).2.1
  one_le_capacity := by
    refine of_getD_bind (p := (1 ≤ ·)) hvalid.one_le_capacity fun value new hread => ?_
    exact Nat.one_le_iff_ne_zero.mpr (size?_eq_some.mp hread).2.1
  documentation := by
    refine of_getD_bind (p := fun new : Option Path => ∀ directory ∈ new, directory.text ≠ [] ∧
      '\x00' ∉ directory.text) hvalid.documentation fun value new hread directory hdirectory => ?_
    obtain ⟨written, _, rfl⟩ := documentation?_eq_some.mp hread
    rw [Option.mem_def, Option.ite_none_left_eq_some, Option.some.injEq] at hdirectory
    obtain ⟨hsense, rfl⟩ := hdirectory
    exact not_or.mp hsense

/-- However often an editor sends settings, they are valid. -/
theorem IsValid.foldl_update (hvalid : config.IsValid) (sent : List Json) :
    (sent.foldl Config.update config).IsValid := by
  induction sent generalizing config with
  | nil => exact hvalid
  | cons value rest ih => exact ih (hvalid.update value)

/-- The settings at the start are valid, for no path of an environment has a null character. -/
theorem isValid_default {home : Option Path} (hhome : ∀ directory ∈ home, '\x00' ∉ directory.text) :
    (default (home.map documentationUnder)).IsValid where
  extension_ne_nil := List.cons_ne_nil _ _
  head?_extension := show "lua".toList.head? ≠ some '.' by decide
  one_le_indentSize := show 1 ≤ 4 by decide
  one_le_capacity := show 1 ≤ TextCache.defaultCapacity by decide
  documentation := by
    intro directory hdirectory
    obtain ⟨base, hbase, rfl⟩ := Option.map_eq_some_iff.mp hdirectory
    have hnull := hhome base hbase
    have hrelative : '\x00' ∉ "luasense/documentation/completion".toList := by decide
    unfold documentationUnder Path.join
    split
    · exact ⟨List.cons_ne_nil _ _, hrelative⟩
    · split
      · exact ⟨by simp, by simp [hnull]⟩
      · exact ⟨by simp, by simp [hnull]⟩

/-- Sending the same once more changes nothing. -/
theorem update_update (config : Config) (sent : Json) :
    (config.update sent).update sent = config.update sent := by
  unfold update
  simp only [getD_getD]

end Config

namespace Session

/-- A session that has the settings already is as it was behind taking them over again. -/
theorem configure_configure (session : Session) (config : Config) :
    (session.configure config).rebuildsIndex config = false ∧
      (session.configure config).rebuildsStore config = false ∧
      (session.configure config).configure config = session.configure config := by
  have hindex : (session.configure config).rebuildsIndex config = false := by
    have hrule : (session.configure config).index.rule = config.indexRule := by
      show (if session.rebuildsIndex config then Index.new config.indexRule
        else session.index).rule = config.indexRule
      split
      · rfl
      · rename_i hkept
        have hsame : config.indexRule = session.index.rule := by simpa [rebuildsIndex] using hkept
        exact hsame.symm
    simp [rebuildsIndex, hrule]
  have hstore : (session.configure config).rebuildsStore config = false := by
    simp [configure, rebuildsStore]
  refine ⟨hindex, hstore, ?_⟩
  rw [configure, hindex, hstore]
  rfl

open Config in
/-- However often an editor sends settings, they are valid. Each time, a setting stays if nothing
is sent for it, or something of another kind or without sense, and otherwise it is what was sent.
Sending the same once more changes nothing, and a session keeps its index and its documentation. -/
theorem updates_keep_valid {home : Option Path}
    (hhome : ∀ directory ∈ home, '\x00' ∉ directory.text) (values : List Json) :
    let reached := values.foldl update (default (home.map documentationUnder))
    reached.IsValid ∧ ∀ next : Json,
      (∀ field : Field, (∀ value ∈ field.sent? next, field.Refuses value) →
        field.Same (reached.update next) reached) ∧
      (∀ field : Field, ∀ value ∈ field.sent? next, ¬field.Refuses value →
        field.Holds (reached.update next) value) ∧
      (reached.update next).update next = reached.update next ∧
      ∀ session : Session,
        let changed := session.configure (session.config.update next)
        let again := changed.config.update next
        changed.rebuildsIndex again = false ∧ changed.rebuildsStore again = false ∧
          changed.configure again = changed := by
  intro reached
  refine ⟨(isValid_default hhome).foldl_update values, fun next => ⟨fun field => same_update,
    fun field value => holds_update, update_update reached next, fun session => ?_⟩⟩
  intro changed again
  have hagain : again = session.config.update next := update_update session.config next
  rw [hagain]
  exact configure_configure session (session.config.update next)

/-- What an editor may send first, wrapped and with dots in front of the extension. -/
def sentFirst : Json := .ofFields [("luasense", .ofFields [("sourceExtension", .ofString "..luau"),
  ("documentationDir", .ofString "/opt/docs"), ("indentSize", .ofNat 2)])]

/-- What it may send behind that, with a size of zero and something that is no object. -/
def sentNext : Json := .ofFields [("indentSize", .ofNat 0), ("builtins", .bool false),
  ("sourceExtension", .ofString "lua")]

open Config in
/-- The extension changes, while the size stays and so does the standard library. -/
theorem updates_keep_valid_luau :
    (∀ directory ∈ some (Path.mk "/home/ann/.local/share".toList), '\x00' ∉ directory.text) ∧
      let reached := (default (some (documentationUnder ⟨"/home/ann/.local/share".toList⟩))).update
        sentFirst
      reached.IsValid ∧ reached.extension = "luau".toList ∧ reached.indentSize = 2 ∧
        (reached.update sentNext).indentSize = reached.indentSize ∧
        (reached.update sentNext).builtins = reached.builtins ∧
        "lua".toList.dropWhile (· = '.') = (reached.update sentNext).extension := by
  have hhome : ∀ directory ∈ some (Path.mk "/home/ann/.local/share".toList),
      '\x00' ∉ directory.text := by decide
  obtain ⟨hvalid, hnext⟩ := updates_keep_valid hhome [sentFirst]
  obtain ⟨hstays, htaken, _⟩ := hnext sentNext
  have hzero : ∀ value ∈ Field.indentSize.sent? sentNext, Field.indentSize.Refuses value := by
    rintro _ ⟨⟩
    exact Or.inr rfl
  have hnone : ∀ value ∈ Field.builtins.sent? sentNext, Field.builtins.Refuses value := by
    rintro _ ⟨⟩
  refine ⟨hhome, hvalid, rfl, rfl, hstays _ hzero, hstays _ hnone, ?_⟩
  refine (htaken .extension (.ofString "lua") rfl ?_).symm
  rintro (hkind | hdots)
  · exact hkind ⟨_, rfl⟩
  · exact absurd (hdots 'l' (by decide)) (by decide)

end Session

end LuaAssist
