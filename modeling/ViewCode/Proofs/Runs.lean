import ViewCode.CommandLine.Run
import ViewCode.Proofs.Conversions

/-!
# Runs of the program

Four things can go wrong with a run: the input, that it holds nothing, the indentation and the
output. A run reports the first of them in this order and leaves all files as they were; it never
reports that events were not nested. There is one more way not to succeed: where the code gets too
long the program breaks off before the output is looked at, reports nothing and changes nothing. Any
other run puts the code of its input into one place, and changes nothing else.
-/

namespace ViewCode.CommandLine

open ViewCode.Code ViewCode.Text

namespace Store

/-- What is found in a list of files stands first or among the others. -/
theorem lookup_cons_eq_ite (file : String × ByteArray) (files : List (String × ByteArray))
    (name : String) :
    (file :: files).lookup name = if name = file.1 then some file.2 else files.lookup name := by
  rw [List.lookup_cons]
  split
  · rename_i h
    rw [if_pos (beq_iff_eq.1 h)]
  · rename_i h
    rw [if_neg (beq_eq_false_iff_ne.1 h)]

/-- Replacing the content of a name changes what is found under it and nothing else. -/
theorem lookup_map_replace (files : List (String × ByteArray)) (name other : String)
    (content : ByteArray) :
    (files.map fun file => if file.1 = name then (name, content) else file).lookup other =
      if other = name then (files.lookup other).map fun _ => content else files.lookup other := by
  induction files with
  | nil => simp
  | cons file files ih =>
    rw [List.map_cons, lookup_cons_eq_ite, lookup_cons_eq_ite, ih]
    grind

/-- A file is replaced or added, and every other file stays. -/
theorem get?_set (store : Store) (name other : String) (content : ByteArray) :
    (store.set name content).get? other =
      if other = name then some content else store.get? other := by
  unfold set get?
  split
  · rename_i hs
    rw [lookup_map_replace]
    split
    · rename_i ho
      obtain ⟨found, hf⟩ := Option.isSome_iff_exists.1 hs
      rw [ho, hf]
      rfl
    · rfl
  · rename_i hn
    rw [List.lookup_append, lookup_cons_eq_ite]
    split
    · rename_i ho
      rw [ho, Option.not_isSome_iff_eq_none.1 hn]
      rfl
    · simp

end Store

namespace FileSystem

/-- What is read from a path is the content of the file that it leads to. -/
theorem read_eq_ok_iff {system : FileSystem} {path : String} {content : ByteArray} :
    system.read path = .ok content ↔
      ∃ name, system.toRead path = .ok name ∧ system.store.get? name = some content := by
  unfold read
  simp only [bind, Except.bind]
  cases system.toRead path with
  | error fault => simp
  | ok name =>
    dsimp only
    cases hg : system.store.get? name with
    | none => simp [hg]
    | some found => simp [hg]

theorem write_of_ok {system : FileSystem} {path name : String} (h : system.toWrite path = .ok name)
    (content : ByteArray) : system.write path content = .ok (system.store.set name content) := by
  simp [write, h, bind, Except.bind, pure, Except.pure]

theorem write_of_error {system : FileSystem} {path : String} {fault : IoFault}
    (h : system.toWrite path = .error fault) (content : ByteArray) :
    system.write path content = .error fault := by
  simp [write, h, bind, Except.bind]

end FileSystem

/-- The markup is the text of the input that the options choose, which is the standard input or the
file that a path leads to. -/
def IsInput (options : Options) (world : World) (markup : String) : Prop :=
  match options.input with
  | none => world.stdin = markup.toUTF8
  | some path => ∃ name, world.files.toRead path = .ok name ∧
    world.files.store.get? name = some markup.toUTF8

/-- Bytes are decoded to the text that they encode. -/
theorem fromUTF8?_eq_some_iff {bytes : ByteArray} {text : String} :
    String.fromUTF8? bytes = some text ↔ bytes = text.toUTF8 := by
  unfold String.fromUTF8?
  constructor
  · intro h
    split at h
    · cases h
      rfl
    · cases h
  · rintro rfl
    have hv : text.toUTF8.IsValidUTF8 := text.isValidUTF8
    rw [dif_pos hv]
    rfl

/-- The input is decoded to the text that it is. -/
theorem decodeInput_eq_ok_iff {options : Options} {world : World} {markup : String} :
    decodeInput (readInput options world) = .ok markup ↔ IsInput options world markup := by
  have hr : IsInput options world markup ↔ readInput options world = .ok markup.toUTF8 := by
    unfold IsInput readInput
    cases options.input with
    | none => simp
    | some path => exact FileSystem.read_eq_ok_iff.symm
  rw [hr]
  unfold decodeInput
  cases readInput options world with
  | error fault => simp
  | ok bytes =>
    have hb : String.fromUTF8? bytes = some markup ↔ bytes = markup.toUTF8 := fromUTF8?_eq_some_iff
    rw [Except.ok.injEq, ← hb]
    dsimp only
    cases String.fromUTF8? bytes <;> simp

/-- The settings are those that the options ask for. -/
structure Options.AskFor (options : Options) (settings : Settings) : Prop where
  /-- Code is indented by spaces if not by tabs. -/
  char : settings.indent.char = if options.tabs then .tab else .space
  /-- A level takes one tab, whatever number is given, or the given number of spaces. -/
  size : settings.indent.size = if options.tabs then 1 else options.indentSize.getD 2
  /-- The values of ids are kept on request. -/
  ids : settings.ids = if options.keepIds then .keep else .blank

/-- The options ask for one choice of settings at most. -/
theorem Options.AskFor.unique {options : Options} {first second : Settings}
    (hf : options.AskFor first) (hs : options.AskFor second) : first = second := by
  obtain ⟨⟨char, size, _⟩, ids⟩ := first
  obtain ⟨⟨otherChar, otherSize, _⟩, otherIds⟩ := second
  obtain rfl : char = otherChar := hf.char.trans hs.char.symm
  obtain rfl : size = otherSize := hf.size.trans hs.size.symm
  obtain rfl : ids = otherIds := hf.ids.trans hs.ids.symm
  rfl

/-- Settings that are asked for have an indentation. -/
theorem Options.AskFor.indents {options : Options} {settings : Settings}
    (h : options.AskFor settings) : options.tabs = true ∨ options.indentSize.getD 2 ≠ 0 := by
  cases ht : options.tabs with
  | true => exact .inl rfl
  | false =>
    have hs := h.size
    simp only [ht, Bool.false_eq_true, if_false] at hs
    have hp := settings.indent.size_pos
    rw [hs] at hp
    refine .inr fun hz => ?_
    rw [hz] at hp
    exact absurd hp (by decide)

/-- The code of the input under the settings that are asked for is too long for a text. -/
def CodeTooLong (options : Options) (world : World) : Prop :=
  ∃ markup settings, IsInput options world markup ∧ (∃ c ∈ markup.toList, isBlank c = false) ∧
    options.AskFor settings ∧ convert settings markup = .error .tooLong

/-- What is wrong with the input: it cannot be read, or is not text. -/
def inputFailure? (options : Options) (world : World) : Option Failure :=
  match readInput options world with
  | .error fault => some (.io fault)
  | .ok bytes => if (String.fromUTF8? bytes).isSome then none else some (.io .invalidUtf8)

/-- Whether the input is a text that holds nothing. -/
def blankFailure? (options : Options) (world : World) : Option Failure :=
  match (readInput options world).toOption.bind String.fromUTF8? with
  | none => none
  | some markup => if markup.toList.all isBlank then some .blankInput else none

/-- What is wrong with the indentation: there is none. -/
def indentFailure? (options : Options) : Option Failure :=
  if options.tabs = false ∧ options.indentSize.getD 2 = 0 then some (.indent .zeroSize) else none

/-- What is wrong with the output: the path leads nowhere. -/
def outputFailure? (options : Options) (world : World) : Option Failure :=
  match options.output with
  | none => none
  | some path =>
    match world.files.toWrite path with
    | .ok _ => none
    | .error fault => some (.io fault)

/-- The failures that are found before there is code, in the order in which they count. -/
def earlyFailures (options : Options) (world : World) : List Failure :=
  [inputFailure? options world, blankFailure? options world, indentFailure? options].filterMap id

/-- The failures of a run, in the order in which they count. -/
def failures (options : Options) (world : World) : List Failure :=
  earlyFailures options world ++ (outputFailure? options world).toList

/-- The settings can be made unless there is no indentation. -/
theorem settingsOf_cases (options : Options) :
    ((options.tabs = false ∧ options.indentSize.getD 2 = 0) ∧
        settingsOf options = .error (.indent .zeroSize)) ∨
      ¬(options.tabs = false ∧ options.indentSize.getD 2 = 0) ∧
        ∃ settings, settingsOf options = .ok settings ∧ options.AskFor settings := by
  unfold settingsOf Options.indent Indent.ofEditor
  cases ht : options.tabs with
  | true =>
    have ha : options.AskFor ⟨Indent.tabs, options.ids⟩ := by
      refine ⟨?_, ?_, rfl⟩ <;> rw [ht] <;> rfl
    exact .inr ⟨by simp, _, rfl, ha⟩
  | false =>
    by_cases hs : 0 < options.indentSize.getD 2
    · have ha : options.AskFor ⟨⟨.space, options.indentSize.getD 2, hs⟩, options.ids⟩ := by
        refine ⟨?_, ?_, rfl⟩ <;> rw [ht] <;> rfl
      have hi : Indent.spaces (options.indentSize.getD 2) = .ok ⟨.space, _, hs⟩ := dif_pos hs
      refine .inr ⟨?_, _, ?_, ha⟩
      · rintro ⟨-, hz⟩
        rw [hz] at hs
        exact absurd hs (by decide)
      · simp [hi]
    · have hi : Indent.spaces (options.indentSize.getD 2) = .error .zeroSize := dif_neg hs
      have hz : options.indentSize.getD 2 = 0 := by grind
      exact .inl ⟨⟨rfl, hz⟩, by simp [hi]⟩

/-- The input is decoded unless something is wrong with it, and then it is known whether it holds
anything. -/
theorem decodeInput_cases (options : Options) (world : World) :
    (∃ failure, decodeInput (readInput options world) = .error failure ∧
        inputFailure? options world = some failure) ∨
      ∃ markup, decodeInput (readInput options world) = .ok markup ∧
        IsInput options world markup ∧ inputFailure? options world = none ∧
        blankFailure? options world =
          if markup.toList.all isBlank then some .blankInput else none := by
  unfold inputFailure? blankFailure?
  cases hr : readInput options world with
  | error fault => exact .inl ⟨.io fault, rfl, rfl⟩
  | ok bytes =>
    dsimp only [decodeInput, Except.toOption, Option.bind_some]
    cases hu : String.fromUTF8? bytes with
    | none => exact .inl ⟨.io .invalidUtf8, rfl, rfl⟩
    | some markup =>
      have hd : decodeInput (readInput options world) = .ok markup := by
        simp [decodeInput, hr, hu]
      exact .inr ⟨markup, rfl, decodeInput_eq_ok_iff.1 hd, rfl, rfl⟩

/-- There is no early failure exactly if the input is a text that holds something and there is an
indentation. -/
theorem earlyFailures_eq_nil_iff {options : Options} {world : World} :
    earlyFailures options world = [] ↔
      (∃ markup, IsInput options world markup ∧ ∃ c ∈ markup.toList, isBlank c = false) ∧
        (options.tabs = true ∨ options.indentSize.getD 2 ≠ 0) := by
  have hf : earlyFailures options world = [] ↔
      inputFailure? options world = none ∧ blankFailure? options world = none ∧
        indentFailure? options = none := by
    simp [earlyFailures, List.filterMap_eq_nil_iff]
  have hz : indentFailure? options = none ↔
      (options.tabs = true ∨ options.indentSize.getD 2 ≠ 0) := by
    cases ht : options.tabs <;> simp [indentFailure?, ht]
  rw [hf, hz]
  rcases decodeInput_cases options world with ⟨failure, hd, hi⟩ | ⟨markup, hd, -, hi, hb⟩
  · have hn : ∀ markup, ¬IsInput options world markup := by
      intro markup hm
      rw [decodeInput_eq_ok_iff.2 hm] at hd
      cases hd
    simp [hi, hn]
  · have hu : ∀ other, IsInput options world other ↔ other = markup := by
      intro other
      rw [← decodeInput_eq_ok_iff, hd, Except.ok.injEq, eq_comm]
    simp [hi, hb, hu]

/-- Nothing is wrong with the output exactly if a path that is given leads to a name. -/
theorem outputFailure?_eq_none_iff {options : Options} {world : World} :
    outputFailure? options world = none ↔
      ∀ path, options.output = some path → ∃ name, world.files.toWrite path = .ok name := by
  unfold outputFailure?
  cases options.output with
  | none => simp
  | some path =>
    dsimp only
    cases hw : world.files.toWrite path <;> simp [hw]

/-- The conversion of the input fails with the first failure, or there is none yet and it has the
result of converting the input under the settings that are asked for. -/
theorem convertInput_cases (options : Options) (world : World) :
    (∃ failure, convertInput options (readInput options world) =
          .error { failure? := some failure } ∧
        (earlyFailures options world).head? = some failure) ∨
      ∃ markup settings, IsInput options world markup ∧
        (∃ c ∈ markup.toList, isBlank c = false) ∧ options.AskFor settings ∧
        ((∃ conversion, convertInput options (readInput options world) = .ok conversion ∧
            convert settings markup = .ok conversion.code) ∨
          ∃ notices, convertInput options (readInput options world) = .error ⟨none, notices⟩ ∧
            convert settings markup = .error .tooLong) := by
  unfold earlyFailures
  rcases decodeInput_cases options world with ⟨failure, hd, hf⟩ | ⟨markup, hd, hi, hf, hb⟩
  · refine .inl ⟨failure, ?_, ?_⟩
    · simp only [convertInput, hd]
    · rw [hf]
      rfl
  · simp only [convertInput, hd]
    rw [hf, hb, indentFailure?]
    cases ha : markup.toList.all isBlank with
    | true => exact .inl ⟨.blankInput, rfl, rfl⟩
    | false =>
      rcases settingsOf_cases options with ⟨hz, hs⟩ | ⟨-, settings, hs, hk⟩
      · rw [hs, if_pos hz]
        exact .inl ⟨.indent .zeroSize, rfl, rfl⟩
      · have hn : ∃ c ∈ markup.toList, isBlank c = false := by simpa using ha
        refine .inr ⟨markup, settings, hi, hn, hk, ?_⟩
        rcases Session.convert_cases markup (Session.start settings) with
          ⟨conversion, after, hc⟩ | ⟨notices, after, hc⟩
        · have hv : convert settings markup = .ok conversion.code := by rw [convert, hc]
          simp only [hs, hc, Bool.false_eq_true, if_false]
          exact .inl ⟨conversion, rfl, hv⟩
        · have hv : convert settings markup = .error .tooLong := by rw [convert, hc]
          simp only [hs, hc, Bool.false_eq_true, if_false]
          exact .inr ⟨notices, rfl, hv⟩

/-- Whether the code is too long can be told from one choice of input and settings. -/
theorem codeTooLong_iff {options : Options} {world : World} {markup : String} {settings : Settings}
    (hi : IsInput options world markup) (hn : ∃ c ∈ markup.toList, isBlank c = false)
    (hk : options.AskFor settings) :
    CodeTooLong options world ↔ convert settings markup = .error .tooLong := by
  constructor
  · rintro ⟨other, given, ho, -, hg, hc⟩
    rw [← decodeInput_eq_ok_iff] at hi ho
    rw [hi, Except.ok.injEq] at ho
    rw [ho, hk.unique hg]
    exact hc
  · intro hc
    exact ⟨markup, settings, hi, hn, hk, hc⟩

/-- Code that is too long is no code of a run with an early failure. -/
theorem CodeTooLong.earlyFailures_eq_nil {options : Options} {world : World}
    (h : CodeTooLong options world) : earlyFailures options world = [] := by
  obtain ⟨markup, settings, hi, hn, hk, -⟩ := h
  exact earlyFailures_eq_nil_iff.2 ⟨⟨markup, hi, hn⟩, hk.indents⟩

/-- A run reports the first failure and changes nothing, or the code is too long and it breaks off,
or neither is the case and it puts the code of its input where the options say. -/
theorem runConvert_cases (options : Options) (world : World) :
    (¬CodeTooLong options world ∧ ∃ (failure : Failure) (notices : List Notice),
        (failures options world).head? = some failure ∧
        runConvert options world =
          { exitCode := 1, log := notices.map Notice.entry ++ [failure.entry],
            files := world.files.store }) ∨
      (CodeTooLong options world ∧ ∃ notices : List Notice,
        runConvert options world =
          { exitCode := 101, log := notices.map Notice.entry, files := world.files.store }) ∨
      ¬CodeTooLong options world ∧ failures options world = [] ∧
        ∃ markup settings code, ∃ notices : List Notice,
          IsInput options world markup ∧ options.AskFor settings ∧
            convert settings markup = .ok code ∧
            match options.output with
            | none => runConvert options world =
                { exitCode := 0, stdout := code ++ "\n", log := notices.map Notice.entry,
                  files := world.files.store }
            | some path => ∃ name, world.files.toWrite path = .ok name ∧
              runConvert options world =
                { exitCode := 0, log := notices.map Notice.entry,
                  files := world.files.store.set name code.toUTF8 } := by
  unfold runConvert failures
  rcases convertInput_cases options world with
    ⟨failure, hc, hf⟩ | ⟨markup, settings, hi, hn, hk, ⟨conversion, hc, hv⟩ | ⟨notices, hc, hv⟩⟩
  · rw [hc]
    refine .inl ⟨fun hl => ?_, failure, [], ?_, rfl⟩
    · rw [hl.earlyFailures_eq_nil] at hf
      cases hf
    · rw [List.head?_append, hf]
      rfl
  · have hl : ¬CodeTooLong options world := by
      rw [codeTooLong_iff hi hn hk, hv]
      exact nofun
    rw [hc, earlyFailures_eq_nil_iff.2 ⟨⟨markup, hi, hn⟩, hk.indents⟩]
    unfold outputFailure? deliveryOf
    dsimp only
    cases options.output with
    | none =>
      exact .inr (.inr ⟨hl, rfl, markup, settings, conversion.code, conversion.notices, hi, hk, hv,
        rfl⟩)
    | some path =>
      dsimp only
      cases hw : world.files.toWrite path with
      | ok name =>
        rw [FileSystem.write_of_ok hw]
        exact .inr (.inr ⟨hl, rfl, markup, settings, conversion.code, conversion.notices, hi, hk,
          hv, name, rfl, rfl⟩)
      | error fault =>
        rw [FileSystem.write_of_error hw]
        exact .inl ⟨hl, .io fault, conversion.notices, rfl, rfl⟩
  · rw [hc]
    refine .inr (.inl ⟨(codeTooLong_iff hi hn hk).2 hv, notices, ?_⟩)
    simp [Stop.exitCode, Stop.log]

/-- That events were not nested is not among the failures of a run. -/
theorem nesting_not_mem_failures (options : Options) (world : World) (cause : NestingError) :
    .nesting cause ∉ failures options world := by
  have hi : inputFailure? options world ≠ some (.nesting cause) := by
    unfold inputFailure?
    split
    · simp
    · split <;> simp
  have hb : blankFailure? options world ≠ some (.nesting cause) := by
    unfold blankFailure?
    split
    · simp
    · split <;> simp
  have hz : indentFailure? options ≠ some (.nesting cause) := by
    unfold indentFailure?
    split <;> simp
  have ho : outputFailure? options world ≠ some (.nesting cause) := by
    unfold outputFailure?
    split
    · simp
    · split <;> simp
  simp [failures, earlyFailures, hi.symm, hb.symm, hz.symm, ho]

/-- Texts with different first letters are different, whatever follows. -/
theorem append_ne_append {first second : String} {c d : Char} (hf : first.toList.head? = some c)
    (hs : second.toList.head? = some d) (hd : c ≠ d) (words others : String) :
    first ++ words ≠ second ++ others := by
  intro h
  have hh := congrArg (fun text => text.toList.head?) h
  simp only [String.toList_append, List.head?_append, hf, hs, Option.some_or,
    Option.some.injEq] at hh
  exact hd hh

/-- No other failure is logged as events that were not nested are: the level is another, or the
first letter. -/
theorem entry_ne_nesting_entry {failure : Failure} (h : ∀ cause, failure ≠ .nesting cause)
    (cause : NestingError) : failure.entry ≠ (Failure.nesting cause).entry := by
  intro he
  have hm : failure.message = (Failure.nesting cause).message := congrArg Log.Entry.message he
  cases failure with
  | blankInput =>
    have hl : Log.Level.warn = Log.Level.error := congrArg Log.Entry.level he
    cases hl
  | io fault => exact append_ne_append rfl rfl (by decide) _ _ hm
  | indent other => exact append_ne_append rfl rfl (by decide) _ _ hm
  | nesting other => exact h other rfl

/-- A notice is no failure. -/
theorem level_entry (notice : Notice) :
    notice.entry.level ≠ .error ∧ notice.entry.level ≠ .warn := by
  cases notice <;> simp [Notice.entry]

/-- What is logged as notices is not logged as events that were not nested. -/
theorem nesting_entry_not_mem_map (cause : NestingError) (notices : List Notice) :
    (Failure.nesting cause).entry ∉ notices.map Notice.entry := by
  intro hm
  obtain ⟨notice, -, he⟩ := List.mem_map.1 hm
  exact (level_entry notice).1 (congrArg Log.Entry.level he)

/-- A run that fails prints nothing, changes no file and logs the first failure last, which is not
that events were not nested. -/
theorem runConvert_of_failures {options : Options} {world : World}
    (hl : ¬CodeTooLong options world) (h : failures options world ≠ []) :
    (runConvert options world).exitCode = 1 ∧ (runConvert options world).stdout = "" ∧
      (runConvert options world).files = world.files.store ∧
      (∀ cause, (Failure.nesting cause).entry ∉ (runConvert options world).log) ∧
      ∃ failure, (failures options world).head? = some failure ∧
        (runConvert options world).log.getLast? = some failure.entry := by
  rcases runConvert_cases options world with
    ⟨-, failure, notices, hf, hr⟩ | ⟨ht, -⟩ | ⟨-, hf, -⟩
  · have hne : ∀ cause, failure ≠ .nesting cause := by
      rintro other rfl
      exact nesting_not_mem_failures options world other (List.mem_of_mem_head? hf)
    rw [hr]
    refine ⟨rfl, rfl, rfl, fun cause => ?_, failure, hf, by simp⟩
    simpa [nesting_entry_not_mem_map cause notices] using (entry_ne_nesting_entry hne cause).symm
  · exact absurd ht hl
  · exact absurd hf h

/-- A run whose code is too long prints nothing, changes no file and logs notices only. -/
theorem runConvert_of_codeTooLong {options : Options} {world : World}
    (h : CodeTooLong options world) :
    (runConvert options world).exitCode = 101 ∧ (runConvert options world).stdout = "" ∧
      (runConvert options world).files = world.files.store ∧
      ∃ notices : List Notice, (runConvert options world).log = notices.map Notice.entry := by
  rcases runConvert_cases options world with ⟨hl, -⟩ | ⟨-, notices, hr⟩ | ⟨hl, -⟩
  · exact absurd h hl
  · rw [hr]
    exact ⟨rfl, rfl, rfl, notices, rfl⟩
  · exact absurd h hl

/-- A run without failures whose code is not too long puts the code of its input into one place. -/
theorem runConvert_of_no_failures {options : Options} {world : World}
    (hl : ¬CodeTooLong options world) (h : failures options world = []) :
    (runConvert options world).exitCode = 0 ∧
      (∃ notices : List Notice, (runConvert options world).log = notices.map Notice.entry) ∧
      ∃ markup settings code, IsInput options world markup ∧ options.AskFor settings ∧
        convert settings markup = .ok code ∧
        match options.output with
        | none => (runConvert options world).stdout = code ++ "\n" ∧
          (runConvert options world).files = world.files.store
        | some path => (runConvert options world).stdout = "" ∧
          ∃ name, world.files.toWrite path = .ok name ∧
            ∀ other, (runConvert options world).files.get? other =
              if other = name then some code.toUTF8 else world.files.store.get? other := by
  rcases runConvert_cases options world with
    ⟨-, failure, notices, hf, -⟩ | ⟨ht, -⟩ | ⟨-, -, markup, settings, code, notices, hi, hk, hv, hr⟩
  · simp [h] at hf
  · exact absurd ht hl
  · cases ho : options.output with
    | none =>
      rw [ho] at hr
      rw [hr]
      exact ⟨rfl, ⟨notices, rfl⟩, markup, settings, code, hi, hk, hv, rfl, rfl⟩
    | some path =>
      rw [ho] at hr
      obtain ⟨name, hw, hr⟩ := hr
      rw [hr]
      exact ⟨rfl, ⟨notices, rfl⟩, markup, settings, code, hi, hk, hv, rfl, name, hw,
        fun other => Store.get?_set world.files.store name other code.toUTF8⟩

/-- The exit code tells the three ways of a run apart. -/
theorem exitCode_iff (options : Options) (world : World) :
    ((runConvert options world).exitCode = 0 ↔
        failures options world = [] ∧ ¬CodeTooLong options world) ∧
      ((runConvert options world).exitCode = 101 ↔ CodeTooLong options world) ∧
      ((runConvert options world).exitCode = 1 ↔
        failures options world ≠ [] ∧ ¬CodeTooLong options world) := by
  by_cases hl : CodeTooLong options world
  · simp [(runConvert_of_codeTooLong hl).1, hl]
  · by_cases hf : failures options world = []
    · simp [(runConvert_of_no_failures hl hf).1, hl, hf]
    · simp [(runConvert_of_failures hl hf).1, hl, hf]

/-- A request to indent by as many spaces as a machine word can say. -/
def widestOptions : Options :=
  { indentSize := some 18446744073709551615 }

/-- A paragraph on the standard input, and no files. -/
def paragraphWorld : World where
  files := ⟨⟨[]⟩, fun _ => .error .notFound, fun _ => .error .notFound⟩
  stdin := "<p>x</p>".toUTF8

end ViewCode.CommandLine
