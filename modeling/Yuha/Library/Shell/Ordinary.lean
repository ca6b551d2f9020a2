import Yuha.Library.Shell.Content

/-!
# Texts that need no quotes

Words of ordinary characters, divided by blanks, are read as they stand. An assigned value
stands for itself if it has no tilde where one means a home directory.
-/

namespace Library.Shell

variable {extent : Char → List Char → Option Nat} {c : Char} {rest text : List Char}

/-! ## Ordinary texts -/

theorem step_ordinary {fresh : Bool} (hc : Ordinary c) (hcomment : ¬ (c = '#' ∧ fresh)) :
    step extent (.unquoted fresh) c rest = some ([.plain c], .unquoted false) := by
  simp only [Ordinary, List.mem_append, not_or] at hc
  obtain ⟨⟨⟨⟨hblank, hoperator⟩, hquote⟩, hexpander⟩, -⟩ := hc
  simp [quotes] at hquote
  simp [step, hblank, hoperator, hquote, hexpander, hcomment]

theorem symbols_append {word : List Char} (hword : ∀ c ∈ word, Ordinary c) :
    symbols extent (.unquoted false) (word ++ rest) =
      (symbols extent (.unquoted false) rest).map (word.map .plain ++ ·) := by
  induction word with
  | nil => simp
  | cons c word ih =>
      obtain ⟨hc, hword⟩ := List.forall_mem_cons.mp hword
      simp [symbols, step_ordinary hc, ih hword, Function.comp_def]

/-- A word that is no comment and needs no quotes. -/
structure Bare (word : List Char) : Prop where
  ne_nil : word ≠ []
  ordinary : ∀ c ∈ word, Ordinary c
  head : word.head? ≠ some '#'

theorem Bare.symbols_append {word : List Char} (hword : Bare word) :
    symbols extent (.unquoted true) (word ++ rest) =
      (symbols extent (.unquoted false) rest).map (word.map .plain ++ ·) := by
  obtain ⟨c, word, rfl⟩ := List.exists_cons_of_ne_nil hword.ne_nil
  obtain ⟨hc, hordinary⟩ := List.forall_mem_cons.mp hword.ordinary
  have hcomment : c ≠ '#' := by simpa using hword.head
  simp [symbols, step_ordinary hc, hcomment, Shell.symbols_append hordinary, Function.comp_def]

/-- What follows does not belong to a word before it. -/
def EndsWord (syms : List Symbol) : Prop :=
  ∀ word more, tokens syms ≠ .word word :: more

theorem tokens_map_plain {word : List Char} {syms : List Symbol} (hne : word ≠ [])
    (hsyms : EndsWord syms) :
    tokens (word.map .plain ++ syms) = .word (word.map .plain) :: tokens syms := by
  induction word with
  | nil => exact absurd rfl hne
  | cons c word ih =>
      cases word with
      | nil =>
          change addSymbol (.plain c) (tokens syms) = _
          unfold addSymbol
          split
          · contradiction
          · contradiction
          · exact absurd (by assumption) (hsyms _ _)
          · rfl
      | cons d word =>
          change addSymbol (.plain c) (tokens ((d :: word).map .plain ++ syms)) = _
          rw [ih (List.cons_ne_nil d word)]
          rfl

/-- A bare word before a blank is a word. -/
theorem shellWords_append {word : List Char} (hword : Bare word) (rest : List Char) :
    shellWords extent (word ++ ' ' :: rest) =
      (shellWords extent rest).map (word.map .plain :: ·) := by
  have hblank : symbols extent (.unquoted false) (' ' :: rest) =
      (symbols extent (.unquoted true) rest).map (.blank :: ·) := rfl
  unfold shellWords
  rw [hword.symbols_append, hblank]
  cases symbols extent (.unquoted true) rest with
  | none => rfl
  | some syms =>
      have htokens : tokens (word.map .plain ++ Symbol.blank :: syms) =
          .word (word.map .plain) :: .blank :: tokens syms :=
        tokens_map_plain hword.ne_nil fun _ _ h => nomatch h
      simp [htokens, commandWords, startsRedirection]

/-- What a descriptor writes can go to a file. -/
theorem shellWords_redirection {d : Char} {file : List Char} (hdigit : d.isDigit)
    (hd : Bare [d]) (hfile : Bare file) : shellWords extent (d :: '>' :: file) = some [] := by
  have hsymbols : symbols extent (.unquoted true) (d :: '>' :: file) =
      some ([d].map .plain ++ Symbol.operator '>' :: (file.map .plain ++ [])) := by
    have hredirect : symbols extent (.unquoted false) ('>' :: (file ++ [])) =
        (symbols extent (.unquoted true) (file ++ [])).map (.operator '>' :: ·) := rfl
    have hnil : symbols extent (.unquoted false) [] = some [] := rfl
    have hall := @Bare.symbols_append extent ('>' :: (file ++ [])) [d] hd
    rw [hredirect, hfile.symbols_append, hnil] at hall
    simpa using hall
  have hfileTokens : tokens (file.map .plain ++ []) = [.word (file.map .plain)] :=
    tokens_map_plain hfile.ne_nil fun _ _ h => nomatch h
  have htokens : tokens ([d].map .plain ++ Symbol.operator '>' :: (file.map .plain ++ [])) =
      [.word ([d].map .plain), .operator '>', .word (file.map .plain)] := by
    have hends : EndsWord (.operator '>' :: (file.map .plain ++ [])) := fun _ _ h => nomatch h
    rw [tokens_map_plain hd.ne_nil hends]
    exact congrArg (.word [.plain d] :: .operator '>' :: ·) hfileTokens
  unfold shellWords
  rw [hsymbols, Option.bind_some, htokens]
  simp [commandWords, isNumber, hdigit, startsRedirection, IsRedirecting]

theorem shellWords_flatMap {words : List (List Char)} (hwords : ∀ word ∈ words, Bare word)
    (rest : List Char) :
    shellWords extent (words.flatMap (· ++ [' ']) ++ rest) =
      (shellWords extent rest).map (words.map (·.map .plain) ++ ·) := by
  induction words with
  | nil => simp
  | cons word words ih =>
      obtain ⟨hword, hwords⟩ := List.forall_mem_cons.mp hwords
      have hrest : shellWords extent (word ++ ' ' :: (words.flatMap (· ++ [' ']) ++ rest)) = _ :=
        shellWords_append hword _
      simpa [ih hwords, Function.comp_def] using hrest

/-! ## Assignments as they are written -/

/-- An assignment as it is written. -/
def assignmentText (assignment : List Char × List Char) : List Char :=
  assignment.1 ++ '=' :: assignment.2

theorem isNamePart_of_mem {name : List Char} (hname : IsName name) {c : Char} (hc : c ∈ name) :
    isNamePart c := by
  cases name with
  | nil => cases hc
  | cons d name =>
      obtain ⟨hstart, hparts⟩ := hname
      rcases List.mem_cons.mp hc with rfl | hc
      · rcases Bool.or_eq_true_iff.mp hstart with halpha | hunderscore
        · simp [isNamePart, Char.isAlphanum, halpha]
        · simp [isNamePart, hunderscore]
      · exact List.all_eq_true.mp hparts c hc

theorem cutEquals_map_plain {name : List Char} (hname : '=' ∉ name) (word : List Symbol) :
    cutEquals (name.map .plain ++ Symbol.plain '=' :: word) = some (name, word) := by
  induction name with
  | nil => rfl
  | cons c name ih =>
      obtain ⟨hc, hname⟩ := List.ne_and_not_mem_of_not_mem_cons hname
      simp [cutEquals, hc.symm, ih hname]

theorem asAssignment_assignmentText {assignment : List Char × List Char}
    (hname : IsName assignment.1) :
    asAssignment ((assignmentText assignment).map .plain) =
      some (assignment.1, assignment.2.map .plain) := by
  have hequals : '=' ∉ assignment.1 := fun hmem => nomatch isNamePart_of_mem hname hmem
  have hcut := cutEquals_map_plain hequals (assignment.2.map .plain)
  simp [asAssignment, assignmentText, hcut, hname]

theorem asAssignment_eq_none {word : List Char} (hword : '=' ∉ word) :
    asAssignment (word.map .plain) = none := by
  have hcut : cutEquals (word.map .plain) = none := by
    induction word with
    | nil => rfl
    | cons c word ih =>
        obtain ⟨hc, hword⟩ := List.ne_and_not_mem_of_not_mem_cons hword
        simp [cutEquals, hc.symm, ih hword]
  simp [asAssignment, hcut]

theorem splitAssignments_append {assigned : List (List Char × List Char)}
    (hnames : ∀ assignment ∈ assigned, IsName assignment.1) {words : List (List Symbol)}
    (hwords : ∀ word ∈ words.head?, asAssignment word = none) :
    splitAssignments ((assigned.map assignmentText).map (·.map .plain) ++ words) =
      (assigned.map fun assignment => (assignment.1, assignment.2.map .plain), words) := by
  induction assigned with
  | nil =>
      cases words with
      | nil => rfl
      | cons word words => simp [splitAssignments, hwords word rfl]
  | cons assignment assigned ih =>
      obtain ⟨hname, hnames⟩ := List.forall_mem_cons.mp hnames
      simp only [List.map_cons, List.cons_append, splitAssignments,
        asAssignment_assignmentText hname, ih hnames]

/-! ## Tildes -/

/-- The text, at the start of a value or after a colon, has a tilde that stands for a home
directory. -/
def hasTilde : Bool → List Char → Bool
  | _, [] => false
  | start, c :: rest => start && c == '~' || hasTilde (c == ':') rest

def ValueMode.ofStart (start : Bool) : ValueMode := if start then .start else .inner

theorem value_cons {results : Results} {start : Bool} (h : (start && c == '~') = false)
    (word : List Symbol) :
    value results (.ofStart start) (.plain c :: word) =
      c :: value results (.ofStart (c == ':')) word := by
  cases start with
  | false => simp [ValueMode.ofStart, value]
  | true =>
      have hc : c ≠ '~' := by simpa using h
      simp [ValueMode.ofStart, value, hc]

theorem value_of_hasTilde_eq_false {results : Results} {start : Bool} {word : List Char}
    (h : hasTilde start word = false) :
    value results (.ofStart start) (word.map .plain) = word := by
  induction word generalizing start with
  | nil => cases start <;> rfl
  | cons c word ih =>
      obtain ⟨hc, hword⟩ := Bool.or_eq_false_iff.mp h
      rw [List.map_cons, value_cons hc, ih hword]

theorem login_map_plain (word : List Char) : ∃ name, login (word.map .plain) = some name := by
  induction word with
  | nil => exact ⟨[], rfl⟩
  | cons c word ih =>
      obtain ⟨name, hname⟩ := ih
      by_cases hc : c = '/' ∨ c = ':'
      · exact ⟨[], by simp [login, hc]⟩
      · exact ⟨c :: name, by simp [login, hc, hname]⟩

/-- A home directory without a name takes the place of a tilde. -/
theorem length_value_blank_lt {start : Bool} {word : List Char} (h : hasTilde start word) :
    (value .blank (.ofStart start) (word.map .plain)).length < word.length := by
  induction word generalizing start with
  | nil => cases h
  | cons c word ih =>
      by_cases hc : (start && c == '~') = true
      · obtain ⟨rfl, hc⟩ := Bool.and_eq_true_iff.mp hc
        obtain rfl : c = '~' := by simpa using hc
        obtain ⟨name, hname⟩ := login_map_plain word
        have hrest := (value_blank .login (word.map .plain)).length_le
        rw [content_map_plain] at hrest
        simp only [ValueMode.ofStart, if_true, List.map_cons, value, hname, Results.blank,
          List.nil_append, List.length_cons]
        exact Nat.lt_succ_of_le hrest
      · simp only [Bool.not_eq_true] at hc
        have hword : hasTilde (c == ':') word := by simpa [hasTilde, hc] using h
        rw [List.map_cons, value_cons hc]
        exact Nat.succ_lt_succ (ih hword)

/-- An assignment that is written without quotes, as it is read. -/
def asRead (results : Results) (assignment : List Char × List Char) : List Char × List Char :=
  (assignment.1, value results .start (assignment.2.map .plain))

theorem asRead_of_hasTilde_eq_false {results : Results} {assignment : List Char × List Char}
    (h : hasTilde true assignment.2 = false) : asRead results assignment = assignment :=
  Prod.ext rfl (value_of_hasTilde_eq_false h)

theorem hasTilde_eq_false_of_asRead {assignment : List Char × List Char}
    (h : asRead .blank assignment = assignment) : hasTilde true assignment.2 = false := by
  by_contra htilde
  rw [Bool.not_eq_false] at htilde
  have hlt := length_value_blank_lt htilde
  have hvalue : value .blank .start (assignment.2.map .plain) = assignment.2 :=
    congrArg Prod.snd h
  exact absurd (congrArg List.length hvalue) (Nat.ne_of_lt hlt)

/-! ## Commands as they are written -/

/-- A word that is a command or an argument as it is written. -/
structure Verbatim (word : List Char) : Prop extends Bare word where
  equals : '=' ∉ word
  tilde : word.head? ≠ some '~'
  pattern : ∀ c ∈ word, c ∉ ['*', '?', '[']

theorem Verbatim.fields_eq {word : List Char} (hword : Verbatim word) (results : Results) :
    fields results (word.map .plain) = [word] := by
  have hhead : ((word.map Symbol.plain).head? == some (.plain '~')) = false := by
    simpa using hword.tilde
  have hexpands : expands (word.map .plain) = false := by
    rw [expands, hhead, Bool.false_or, List.any_map, List.any_eq_false]
    exact fun c hc => by simpa using hword.pattern c hc
  simp [fields, hexpands]

theorem flatMap_fields {words : List (List Char)} (hwords : ∀ word ∈ words, Verbatim word)
    (results : Results) : (words.map (·.map .plain)).flatMap (fields results) = words := by
  induction words with
  | nil => rfl
  | cons word words ih =>
      obtain ⟨hword, hwords⟩ := List.forall_mem_cons.mp hwords
      rw [List.map_cons, List.flatMap_cons, hword.fields_eq, ih hwords]
      rfl

theorem ordinary_of_isNamePart (hc : isNamePart c) : Ordinary c := by
  have hnone : (blanks ++ operators ++ quotes ++ expanders ++ ['\x00']).any isNamePart = false := by
    decide
  exact fun hmem => List.any_eq_false.mp hnone c hmem hc

theorem bare_assignmentText {assignment : List Char × List Char} (hname : IsName assignment.1)
    (hvalue : ∀ c ∈ assignment.2, Ordinary c) : Bare (assignmentText assignment) := by
  refine ⟨by simp [assignmentText], ?_, ?_⟩
  · rw [assignmentText, List.forall_mem_append, List.forall_mem_cons]
    refine ⟨fun c hc => ?_, by decide, hvalue⟩
    exact ordinary_of_isNamePart (isNamePart_of_mem hname hc)
  · obtain ⟨name, text⟩ := assignment
    cases name with
    | nil => cases hname
    | cons c name =>
        intro hhead
        obtain rfl : c = '#' := by simpa [assignmentText] using hhead
        exact nomatch isNamePart_of_mem hname List.mem_cons_self

theorem startsReserved_eq_false {word : List Char} (hword : word ∉ reserved)
    (words : List (List Symbol)) : startsReserved (word.map .plain :: words) = false := by
  have hplain : Function.Injective Symbol.plain := fun _ _ h => Symbol.plain.inj h
  rw [startsReserved, List.head?_cons, Option.any_some, List.any_eq_false]
  intro text htext heq
  obtain rfl := List.map_injective_iff.mpr hplain (eq_of_beq heq)
  exact hword htext

theorem assignmentText_notMem_reserved (assignment : List Char × List Char) :
    assignmentText assignment ∉ reserved := by
  intro hmem
  have hequals : ∀ text ∈ reserved, '=' ∉ text := by decide
  exact hequals _ hmem (by simp [assignmentText])

/-- The words of a command and the file for what a descriptor writes, as they are written. -/
def commandText (words : List (List Char)) (d : Char) (file : List Char) : List Char :=
  words.flatMap (· ++ [' ']) ++ d :: '>' :: file

theorem null_notMem_commandText {words : List (List Char)} (hwords : ∀ word ∈ words, Bare word)
    {d : Char} (hd : Bare [d]) {file : List Char} (hfile : Bare file) :
    '\x00' ∉ commandText words d file := by
  have hnull : ∀ {word : List Char}, Bare word → '\x00' ∉ word :=
    fun hword hmem => absurd (hword.ordinary _ hmem) (by decide)
  intro hmem
  rcases List.mem_append.mp hmem with hmem | hmem
  · obtain ⟨word, hword, hmem⟩ := List.mem_flatMap.mp hmem
    simp [hnull (hwords word hword)] at hmem
  · have hne : '\x00' ≠ d := by simpa using hnull hd
    simp [hnull hfile, hne] at hmem

/-- A command written with bare words is read as it is written. -/
theorem read_commandText {assigned : List (List Char × List Char)}
    (hnames : ∀ assignment ∈ assigned, IsName assignment.1)
    (hvalues : ∀ assignment ∈ assigned, ∀ c ∈ assignment.2, Ordinary c)
    {word : List Char} {words : List (List Char)} (hword : word ∉ reserved)
    (hwords : ∀ other ∈ word :: words, Verbatim other) {d : Char} (hdigit : d.isDigit)
    (hd : Bare [d]) {file : List Char} (hfile : Bare file) (results : Results) :
    read extent results
        (commandText (assigned.map assignmentText ++ word :: words) d file) =
      some {
        assignments := assigned.map (asRead results)
        words := word :: words } := by
  have hbare : ∀ other ∈ assigned.map assignmentText ++ word :: words, Bare other := by
    rw [List.forall_mem_append, List.forall_mem_map]
    exact ⟨fun assignment h => bare_assignmentText (hnames _ h) (hvalues _ h),
      fun other h => (hwords other h).toBare⟩
  have hnull := null_notMem_commandText hbare hd hfile
  have htake := List.takeWhile_eq_self_iff.mpr fun c hc =>
    decide_eq_true (p := c ≠ '\x00') fun heq => hnull (heq ▸ hc)
  have hshell : shellWords extent
      (commandText (assigned.map assignmentText ++ word :: words) d file) =
        some ((assigned.map assignmentText ++ word :: words).map (·.map .plain)) := by
    rw [commandText, shellWords_flatMap hbare, shellWords_redirection hdigit hd hfile]
    simp
  have hreserved : startsReserved
      ((assigned.map assignmentText ++ word :: words).map (·.map .plain)) = false := by
    cases assigned with
    | nil => exact startsReserved_eq_false hword _
    | cons assignment assigned =>
        exact startsReserved_eq_false (assignmentText_notMem_reserved assignment) _
  have hsplit : splitAssignments
      ((assigned.map assignmentText ++ word :: words).map (·.map .plain)) =
        (assigned.map fun assignment => (assignment.1, assignment.2.map .plain),
          (word :: words).map (·.map .plain)) := by
    have hequals := (hwords word List.mem_cons_self).equals
    rw [List.map_append]
    apply splitAssignments_append hnames
    rintro _ ⟨⟩
    exact asAssignment_eq_none hequals
  rw [read, htake, hshell, Option.bind_some, hreserved, hsplit, flatMap_fields hwords]
  simp [asRead, Function.comp_def]

/-! ## Commands that assign what they hold -/

theorem countP_quotes_eq_zero {word : List Char} (hword : ∀ c ∈ word, Ordinary c) :
    word.countP (· ∈ quotes) = 0 := by
  rw [List.countP_eq_zero]
  intro c hc hquote
  have hordinary := hword c hc
  simp [Ordinary, of_decide_eq_true hquote] at hordinary

theorem countP_quotes_assignmentText {assignment : List Char × List Char}
    (hname : IsName assignment.1) : (assignmentText assignment).countP (· ∈ quotes) =
      assignment.2.countP (· ∈ quotes) := by
  have hbefore : ∀ c ∈ assignment.1, Ordinary c := fun c hc =>
    ordinary_of_isNamePart (isNamePart_of_mem hname hc)
  have hequals : ¬ '=' ∈ quotes := by decide
  simp [assignmentText, countP_quotes_eq_zero hbefore, hequals]

theorem countP_quotes_flatMap (words : List (List Char)) :
    (words.flatMap (· ++ [' '])).countP (· ∈ quotes) = words.flatten.countP (· ∈ quotes) := by
  have hblank : ¬ ' ' ∈ quotes := by decide
  induction words with
  | nil => rfl
  | cons word words ih => simp [List.countP_append, hblank, ih]

/-- All quotes of a command are in the assigned values. -/
theorem countP_quotes_commandText {assigned : List (List Char × List Char)}
    (hnames : ∀ assignment ∈ assigned, IsName assignment.1) {words : List (List Char)}
    (hwords : ∀ word ∈ words, Bare word) {d : Char} (hd : Bare [d]) {file : List Char}
    (hfile : Bare file) :
    (commandText (assigned.map assignmentText ++ words) d file).countP (· ∈ quotes) =
      (assigned.flatMap Prod.snd).countP (· ∈ quotes) := by
  have hredirect : (d :: '>' :: file).countP (· ∈ quotes) = 0 := by
    have hgreater : ¬ '>' ∈ quotes := by decide
    have hd := countP_quotes_eq_zero hd.ordinary
    have hfile := countP_quotes_eq_zero hfile.ordinary
    rw [List.countP_singleton] at hd
    rw [List.countP_cons, List.countP_cons_of_neg (by simpa using hgreater), hfile, hd]
  have hrest : words.flatten.countP (· ∈ quotes) = 0 := by
    apply countP_quotes_eq_zero
    intro c hc
    obtain ⟨word, hword, hc⟩ := List.mem_flatten.mp hc
    exact (hwords word hword).ordinary c hc
  have hassigned : (assigned.map assignmentText).flatten.countP (· ∈ quotes) =
      (assigned.flatMap Prod.snd).countP (· ∈ quotes) := by
    induction assigned with
    | nil => rfl
    | cons assignment assigned ih =>
        obtain ⟨hname, hnames⟩ := List.forall_mem_cons.mp hnames
        simp [List.countP_append, countP_quotes_assignmentText hname, ih hnames]
  rw [commandText, List.countP_append, hredirect, countP_quotes_flatMap, List.flatten_append,
    List.countP_append, hrest, hassigned, Nat.add_zero]

/-- The values of a command that assigns all of them have no special characters. -/
theorem ordinary_of_read_commandText {assigned : List (List Char × List Char)}
    (hnames : ∀ assignment ∈ assigned, IsName assignment.1)
    (hkeys : (assigned.map Prod.fst).Nodup) {words : List (List Char)}
    (hwords : ∀ word ∈ words, Bare word) {d : Char} (hd : Bare [d]) {file : List Char}
    (hfile : Bare file) {command : SimpleCommand}
    (hread : read extent .blank (commandText (assigned.map assignmentText ++ words) d file) =
      some command) (hassigned : assigned ⊆ command.assignments) :
    ∀ assignment ∈ assigned, ∀ c ∈ assignment.2, Ordinary c := by
  have hcount := countP_quotes_commandText hnames hwords hd hfile
  have hle : (assigned.flatMap Prod.snd).countP (· ∈ quotes) ≤
      (command.assignments.flatMap Prod.snd).countP (· ∈ quotes) := by
    obtain ⟨some, hperm, hsublist⟩ := List.subperm_of_subset (hkeys.of_map _) hassigned
    calc (assigned.flatMap Prod.snd).countP (· ∈ quotes)
      _ = (some.flatMap Prod.snd).countP (· ∈ quotes) :=
          (hperm.flatMap_right Prod.snd).symm.countP_eq _
      _ ≤ (command.assignments.flatMap Prod.snd).countP (· ∈ quotes) :=
          (hsublist.flatMap Prod.snd).countP_le
  intro assignment hassignment
  refine ordinary_of_assigned hread (fun c hc hquote => ?_) assignment (hassigned hassignment)
  have hlt := countP_assigned_lt hread ⟨c, hc, hquote⟩
  omega

end Library.Shell
