import NamespaceLifecycle.Command.Arguments
import NamespaceLifecycle.Proofs.Json.Scalar
import NamespaceLifecycle.Settings

/-!
# Options and their values

Options with their values attached are read back as they are given, whatever the values are, if no
option is given twice. So every change of the settings can be asked for on the command line, but for
a pause of no length, which is refused.
-/

namespace NamespaceLifecycle.Command

/-! ## One option -/

/-- An option with its value attached. -/
def optionArgument (given : OptionKey × String) : String :=
  "--" ++ (given.1.name ++ ("=" ++ given.2))

theorem OptionKey.name_injective {key other : OptionKey} (h : key.name = other.name) :
    key = other := by
  revert h
  cases key <;> cases other <;> decide

theorem OptionKey.equals_not_mem_name (key : OptionKey) : '=' ∉ key.name.toList := by
  cases key <;> decide

theorem OptionKey.name_ne (key : OptionKey) : key.name ≠ "help" ∧ key.name ≠ "version" := by
  cases key <;> decide

theorem toList_optionArgument (given : OptionKey × String) :
    (optionArgument given).toList =
      '-' :: '-' :: (given.1.name.toList ++ '=' :: given.2.toList) := by
  simp only [optionArgument, String.toList_append]
  rfl

theorem looksLikeOption_optionArgument (given : OptionKey × String) :
    looksLikeOption (optionArgument given) = true := by
  have hchars := toList_optionArgument given
  rw [looksLikeOption, Bool.and_eq_true, decide_eq_true_eq]
  constructor
  · rw [String.startsWith_string_iff, hchars]
    exact ⟨_, rfl⟩
  · intro h
    rw [h] at hchars
    cases hchars

theorem splitAttached_option (name value : List Char) (h : '=' ∉ name) :
    splitAttached (name ++ '=' :: value) = (String.ofList name, some (String.ofList value)) := by
  have hname : ∀ c ∈ name, (c != '=') = true := fun c hc ↦
    bne_iff_ne.2 (ne_of_mem_of_not_mem hc h)
  rw [splitAttached, List.takeWhile_append_of_pos hname, List.dropWhile_append_of_pos hname]
  simp

theorem mention_optionArgument {options : List OptionKey} {given : OptionKey × String}
    (h : given.1 ∈ options) :
    mention options false (optionArgument given) = .option given.1 (some given.2) := by
  have hfind : options.find? (·.name = given.1.name) = some given.1 := by
    cases hfound : options.find? (·.name = given.1.name) with
    | none => exact absurd (decide_eq_true rfl) (List.find?_eq_none.1 hfound given.1 h)
    | some key =>
      have hname := List.find?_some hfound
      rw [OptionKey.name_injective (of_decide_eq_true hname)]
  rw [mention, toList_optionArgument]
  simp only [splitAttached_option _ _ given.1.equals_not_mem_name, String.ofList_toList,
    if_neg given.1.name_ne.1, Bool.and_false, Bool.false_eq_true, if_false, hfind]

/-! ## Several options -/

@[simp] theorem Values.get?_nil (key : OptionKey) : Values.get? [] key = none := rfl

theorem Values.get?_append (first second : Values) (key : OptionKey) :
    Values.get? (first ++ second) key = (first.get? key).or (second.get? key) := by
  rw [get?, List.find?_append, Option.map_or]
  rfl

theorem Values.get?_singleton (key other : OptionKey) (value : String) :
    Values.get? [(key, value)] other = if key = other then some value else none := by
  rw [get?, List.find?_singleton]
  by_cases h : key = other <;> simp [h]

/-- Options are read back after the word for a command. -/
theorem readPlace_options {word : Word} {given : Values}
    (hknown : ∀ pair ∈ given, pair.1 ∈ commonOptions ++ word.options)
    (haccepts : ∀ pair ∈ given, pair.1.accepts pair.2 = true)
    (hkeys : (given.map Prod.fst).Nodup) {place : Place}
    (hnew : ∀ pair ∈ given, place.values.get? pair.1 = none) :
    readPlace (some word) place (given.map optionArgument) =
      .ok { place with values := place.values ++ given } := by
  induction given generalizing place with
  | nil => rw [List.map_nil, readPlace, List.append_nil]
  | cons pair given ih =>
    obtain ⟨key, value⟩ := pair
    rw [List.forall_mem_cons] at hknown haccepts hnew
    rw [List.map_cons, List.nodup_cons] at hkeys
    have hvalues : addValue place.values key value = .ok (place.values ++ [(key, value)]) := by
      rw [addValue, haccepts.1, hnew.1]
      rfl
    rw [List.map_cons, readPlace, if_pos (looksLikeOption_optionArgument _)]
    · simp only [Option.map_some, Option.getD_some, Option.isNone_some]
      rw [mention_optionArgument hknown.1]
      simp only [hvalues]
      rw [ih hknown.2 haccepts.2 hkeys.2]
      · rw [List.append_assoc, List.singleton_append]
      · intro other hother
        have hne : key ≠ other.1 := fun heq ↦
          hkeys.1 (List.mem_map.2 ⟨other, hother, heq.symm⟩)
        rw [Values.get?_append, hnew.2 other hother, Option.none_or, Values.get?_singleton,
          if_neg hne]
    · intro h
      have hchars := toList_optionArgument (key, value)
      rw [h] at hchars
      cases hname : key.name.toList with
      | nil =>
        rw [hname] at hchars
        cases hchars
      | cons c rest =>
        rw [hname] at hchars
        cases hchars

/-! ## Numbers -/

def numeral (n : UInt64) : String := toString n.toNat

theorem mapM_decimalDigit? {chars : List Char} (h : ∀ c ∈ chars, c.isDigit = true) :
    chars.mapM Text.decimalDigit? = some (chars.map Json.digitValue) := by
  induction chars with
  | nil => rfl
  | cons c chars ih =>
    rw [List.forall_mem_cons] at h
    rw [List.mapM_cons, Json.decimalDigit?_of_isDigit h.1, ih h.2]
    rfl

theorem number?_numeral (n : UInt64) : number? (numeral n) = some n := by
  have hchars : (numeral n).toList = Nat.toDigits 10 n.toNat := Nat.toList_repr
  obtain ⟨c, rest, hdigits, hc⟩ := Json.exists_cons_toDigits n.toNat
  have hplus : ((Nat.toDigits 10 n.toNat).head? == some '+') = false := by
    rw [hdigits, List.head?_cons, beq_eq_false_iff_ne]
    rintro ⟨⟩
    cases hc
  have hvalues : (Nat.toDigits 10 n.toNat).mapM Text.decimalDigit? =
      some ((Nat.toDigits 10 n.toNat).map Json.digitValue) :=
    mapM_decimalDigit? fun c hc ↦ Json.isDigit_of_mem_toDigits hc
  have hsome : ¬(Nat.toDigits 10 n.toNat).isEmpty = true := by
    rw [hdigits]
    exact Bool.false_ne_true
  simp only [number?, hchars, hplus, Bool.false_eq_true, if_false, if_neg hsome, hvalues,
    Option.bind_eq_bind, Option.bind_some, Json.ofDigits_toDigits, n.toNat_lt_size, if_true,
    UInt64.ofNat_toNat]

/-! ## Changes of the settings -/

/-- The option that gives a value, where there is one. -/
def optionOf (key : OptionKey) (value : Option String) : Values := value.toList.map (key, ·)

theorem get?_optionOf (key other : OptionKey) (value : Option String) :
    Values.get? (optionOf key value) other = if key = other then value else none := by
  cases value with
  | none => simp [optionOf]
  | some text => exact Values.get?_singleton key other text

theorem forall_mem_optionOf {key : OptionKey} {value : Option String}
    {holds : OptionKey × String → Prop} :
    (∀ pair ∈ optionOf key value, holds pair) ↔ ∀ text ∈ value, holds (key, text) := by
  simp [optionOf]

/-- The options that give what is to change. -/
def optionsOf (change : Settings.Change) : Values :=
  optionOf .endpoint change.endpoint ++ optionOf .token change.token ++
    optionOf .project change.project ++ optionOf .pollInterval (change.pollInterval.map numeral) ++
    optionOf .timeout (change.timeout.map numeral)

theorem get?_optionsOf (change : Settings.Change) (key : OptionKey) :
    (optionsOf change).get? key =
      match key with
      | .endpoint => change.endpoint
      | .token => change.token
      | .project => change.project
      | .pollInterval => change.pollInterval.map numeral
      | .timeout => change.timeout.map numeral
      | _ => none := by
  simp only [optionsOf, Values.get?_append, get?_optionOf]
  cases key <;> simp

theorem keys_optionsOf (change : Settings.Change) :
    List.Sublist ((optionsOf change).map Prod.fst)
      [.endpoint, .token, .project, .pollInterval, .timeout] := by
  have hone (key : OptionKey) (value : Option String) :
      List.Sublist ((optionOf key value).map Prod.fst) [key] := by
    cases value with
    | none => exact List.nil_sublist _
    | some text => exact .refl _
  have hall := ((((hone .endpoint change.endpoint).append (hone .token change.token)).append
    (hone .project change.project)).append
    (hone .pollInterval (change.pollInterval.map numeral))).append
    (hone .timeout (change.timeout.map numeral))
  rw [← List.map_append, ← List.map_append, ← List.map_append, ← List.map_append] at hall
  exact hall

/-- Every change can be given by options, but for a pause of no length. -/
theorem ofArguments_optionsOf {change : Settings.Change} (h : change.pollInterval ≠ some 0) :
    Invocation.ofArguments ("configure" :: (optionsOf change).map optionArgument) =
      .ok ⟨change.endpoint, change.token, change.timeout, .yaml, none,
        .configure change.project change.pollInterval⟩ := by
  have hbefore (rest : List String) : readPlace none .empty ("configure" :: rest) =
      .ok ⟨[], [], some (.configure, rest)⟩ := by
    rw [readPlace, if_neg (by decide +kernel)]
    · rfl
    · decide
  have hafter : readPlace (some .configure) .empty ((optionsOf change).map optionArgument) =
      .ok ⟨optionsOf change, [], none⟩ := by
    refine readPlace_options ?_ ?_ ((keys_optionsOf change).nodup (by decide)) fun _ _ ↦ rfl
    · intro pair hpair
      have hkey := (keys_optionsOf change).subset (List.mem_map_of_mem hpair)
      revert hkey
      cases pair.1 <;> decide
    · simp only [optionsOf, List.forall_mem_append, forall_mem_optionOf]
      refine ⟨⟨⟨⟨fun _ _ ↦ rfl, fun _ _ ↦ rfl⟩, fun _ _ ↦ rfl⟩, ?_⟩, ?_⟩
      · intro text htext
        obtain ⟨secs, hsecs, rfl⟩ := Option.map_eq_some_iff.1 htext
        have hpositive : secs ≠ 0 := fun hzero ↦ h (hzero ▸ hsecs)
        simp [OptionKey.accepts, number?_numeral, hpositive]
      · intro text htext
        obtain ⟨secs, -, rfl⟩ := Option.map_eq_some_iff.1 htext
        simp [OptionKey.accepts, number?_numeral]
  have hnumber (value : Option UInt64) : (value.map numeral).bind number? = value := by
    cases value with
    | none => rfl
    | some secs => exact number?_numeral secs
  rw [Invocation.ofArguments, hbefore]
  simp only [bind, Except.bind, hafter, Word.action?, List.append_nil, get?_optionsOf,
    hnumber]
  rfl

end NamespaceLifecycle.Command
