import Yuha.Library.Shell.Reading
import Mathlib.Data.List.Count
import Mathlib.Data.List.Flatten
import Mathlib.Data.List.TakeWhile

/-!
# What a shell keeps of a text

What gets into the words of a text is a sublist of its characters. A text that quotes loses
at least one quote, and one that does not quote keeps only ordinary characters.
-/

namespace Library.Shell

@[simp] theorem content_nil : content [] = [] := rfl

theorem content_cons (symbol : Symbol) (word : List Symbol) :
    content (symbol :: word) = symbol.char?.toList ++ content word := by
  cases symbol <;> rfl

@[simp] theorem content_append (word more : List Symbol) :
    content (word ++ more) = content word ++ content more :=
  List.filterMap_append

@[simp] theorem content_map_plain (text : List Char) : content (text.map .plain) = text := by
  induction text with
  | nil => rfl
  | cons c text ih => simpa [content, Symbol.char?] using ih

/-! ## What can be in the words of a text -/

section

variable {extent : Char → List Char → Option Nat} {mode next : Mode} {c : Char}
  {rest text : List Char} {out syms : List Symbol}

theorem symbols_cons : symbols extent mode (c :: rest) = some syms ↔
    ∃ out next more, step extent mode c rest = some (out, next) ∧
      symbols extent next rest = some more ∧ out ++ more = syms := by
  simp [symbols, Option.bind_eq_some_iff]

theorem openExpansion_eq_some {quoted : Bool}
    (h : openExpansion extent quoted c rest = some (out, next)) :
    content out = [] ∧ ∃ left, next = .within left quoted := by
  obtain ⟨n, -, h⟩ := Option.map_eq_some_iff.mp h
  obtain ⟨rfl, rfl⟩ := Prod.mk.inj h
  exact ⟨rfl, n, rfl⟩

theorem content_step (h : step extent mode c rest = some (out, next)) :
    (content out).Sublist [c] := by
  have hexpansion : ∀ quoted, openExpansion extent quoted c rest = some (out, next) →
      (content out).Sublist [c] := by
    intro quoted h
    rw [(openExpansion_eq_some h).1]
    exact List.nil_sublist _
  cases mode with
  | expansion left quoted =>
      cases h
      exact List.nil_sublist _
  | _ =>
      simp only [step] at h
      repeat' split at h
      all_goals first | exact hexpansion _ h | grind [content, Symbol.char?]

theorem content_step_quote (hmode : mode.Open) (hc : c ∈ quotes)
    (h : step extent mode c rest = some (out, next)) : content out = [] := by
  have hcases : c = '\x5C' ∨ c = '\x27' ∨ c = '\x22' := by simpa [quotes] using hc
  cases mode with
  | unquoted fresh => rcases hcases with rfl | rfl | rfl <;> cases h <;> rfl
  | comment => rcases hcases with rfl | rfl | rfl <;> cases h <;> rfl
  | expansion left quoted =>
      cases h
      rfl
  | _ => cases hmode

/-- Outside quotes, a character that is none of them leaves the reading outside, and adds to
the content only if it is ordinary. -/
theorem open_step (hmode : mode.Open) (hc : c ∉ quotes) (hnull : c ≠ '\x00')
    (h : step extent mode c rest = some (out, next)) :
    next.Open ∧ ∀ d ∈ content out, Ordinary d := by
  cases mode with
  | unquoted fresh =>
      have hquotes : c ≠ '\x5C' ∧ c ≠ '\x27' ∧ c ≠ '\x22' := by simpa [quotes] using hc
      obtain ⟨hescape, hsingle, hdouble⟩ := hquotes
      simp only [step, if_neg hescape, if_neg hsingle, if_neg hdouble] at h
      by_cases hblank : c ∈ blanks
      · rw [if_pos hblank] at h
        cases h
        exact ⟨trivial, by simp [content, Symbol.char?]⟩
      rw [if_neg hblank] at h
      by_cases hoperator : c ∈ operators
      · rw [if_pos hoperator] at h
        cases h
        exact ⟨trivial, by simp [content, Symbol.char?]⟩
      rw [if_neg hoperator] at h
      by_cases hexpander : c ∈ expanders
      · rw [if_pos hexpander] at h
        obtain ⟨hread, left, rfl⟩ := openExpansion_eq_some h
        exact ⟨Mode.open_within left, by simp [hread]⟩
      rw [if_neg hexpander] at h
      split at h
      · cases h
        exact ⟨trivial, by simp⟩
      · cases h
        refine ⟨trivial, fun d hd => ?_⟩
        obtain rfl : d = c := by simpa [content, Symbol.char?] using hd
        simp [Ordinary, hblank, hoperator, hc, hexpander, hnull]
  | comment =>
      simp only [step] at h
      split_ifs at h <;> cases h <;> exact ⟨trivial, by simp [content, Symbol.char?]⟩
  | expansion left quoted =>
      cases h
      cases quoted with
      | false => exact ⟨Mode.open_within left, by simp⟩
      | true => cases hmode
  | _ => cases hmode

/-- The content of a text is what is left of it without some of its characters. -/
theorem content_symbols (h : symbols extent mode text = some syms) :
    (content syms).Sublist text := by
  induction text generalizing mode syms with
  | nil => 
      obtain ⟨-, rfl⟩ : mode.complete = true ∧ [] = syms := by simpa [symbols] using h
      exact List.nil_sublist _
  | cons c rest ih =>
      obtain ⟨out, next, more, hstep, hmore, rfl⟩ := symbols_cons.mp h
      rw [content_append]
      exact (content_step hstep).append (ih hmore)

/-- A text with a quote makes less of the quotes than are in it. -/
theorem countP_content_lt (hmode : mode.Open) (hnull : '\x00' ∉ text)
    (h : symbols extent mode text = some syms) (hquote : ∃ c ∈ text, c ∈ quotes) :
    (content syms).countP (· ∈ quotes) < text.countP (· ∈ quotes) := by
  induction text generalizing mode syms with
  | nil => simp at hquote
  | cons c rest ih =>
      obtain ⟨out, next, more, hstep, hmore, rfl⟩ := symbols_cons.mp h
      obtain ⟨hcnull, hnull⟩ := List.ne_and_not_mem_of_not_mem_cons hnull
      rw [content_append, List.countP_append, List.countP_cons]
      by_cases hc : c ∈ quotes
      · have hle := (content_symbols hmore).countP_le (p := (· ∈ quotes))
        simp [content_step_quote hmode hc hstep, hc]
        omega
      · obtain ⟨hopen, -⟩ := open_step hmode hc (Ne.symm hcnull) hstep
        have hlt := ih hopen hnull hmore (by simpa [hc] using hquote)
        have hle := (content_step hstep).countP_le (p := (· ∈ quotes))
        rw [List.countP_singleton] at hle
        omega

/-- Without quotes only ordinary characters are left of a text. -/
theorem ordinary_of_mem_content (hmode : mode.Open) (hnull : '\x00' ∉ text)
    (h : symbols extent mode text = some syms) (hquotes : ∀ c ∈ text, c ∉ quotes) :
    ∀ c ∈ content syms, Ordinary c := by
  induction text generalizing mode syms with
  | nil =>
      have hnil := content_symbols h
      simp [List.sublist_nil.mp hnil]
  | cons c rest ih =>
      obtain ⟨out, next, more, hstep, hmore, rfl⟩ := symbols_cons.mp h
      obtain ⟨hcnull, hnull⟩ := List.ne_and_not_mem_of_not_mem_cons hnull
      obtain ⟨hc, hquotes⟩ := List.forall_mem_cons.mp hquotes
      obtain ⟨hopen, hread⟩ := open_step hmode hc (Ne.symm hcnull) hstep
      rw [content_append, List.forall_mem_append]
      exact ⟨hread, ih hopen hnull hmore hquotes⟩

/-- What is in a token. -/
def Token.content : Token → List Char
  | .word syms => Shell.content syms
  | _ => []

theorem content_addSymbol (symbol : Symbol) (ts : List Token) :
    (addSymbol symbol ts).flatMap Token.content =
      symbol.char?.toList ++ ts.flatMap Token.content := by
  fun_cases addSymbol symbol ts with
  | case1 => rfl
  | case2 c => rfl
  | case3 symbol word more => simp [Token.content, content_cons]
  | case4 => simp [Token.content, content_cons]

theorem content_tokens (syms : List Symbol) :
    (tokens syms).flatMap Token.content = content syms := by
  induction syms with
  | nil => rfl
  | cons symbol rest ih =>
      calc (tokens (symbol :: rest)).flatMap Token.content
        _ = symbol.char?.toList ++ (tokens rest).flatMap Token.content :=
            content_addSymbol _ _
        _ = symbol.char?.toList ++ content rest := by rw [ih]
        _ = content (symbol :: rest) := (content_cons symbol rest).symm

theorem content_commandWords {redirection : Redirection} {ts : List Token}
    {words : List (List Symbol)} (h : commandWords redirection ts = some words) :
    (words.flatMap content).Sublist (ts.flatMap Token.content) := by
  have hcons : ∀ {words : List (List Symbol)} {token : Token} {rest : List Token},
      (words.flatMap content).Sublist (rest.flatMap Token.content) →
      (words.flatMap content).Sublist ((token :: rest).flatMap Token.content) :=
    fun hrest => hrest.trans (List.sublist_append_right _ _)
  fun_induction commandWords redirection ts generalizing words with
  | case1 =>
      cases h
      exact List.Sublist.refl _
  | case2 | case5 | case9 | case10 => cases h
  | case3 rest ih | case4 c rest _ ih | case6 word rest _ ih | case8 c d rest _ ih
  | case11 redirection rest _ ih | case12 redirection word rest _ ih => exact hcons (ih h)
  | case7 word rest _ ih =>
      obtain ⟨words, hwords, rfl⟩ := Option.map_eq_some_iff.mp h
      exact (List.Sublist.refl (content word)).append (ih hwords)

theorem content_shellWords {words : List (List Symbol)}
    (h : shellWords extent text = some words) : ∃ syms,
    symbols extent (.unquoted true) text = some syms ∧
      (words.flatMap content).Sublist (content syms) := by
  obtain ⟨syms, hsyms, hwords⟩ := Option.bind_eq_some_iff.mp h
  have hsublist := content_commandWords hwords
  rw [content_tokens] at hsublist
  exact ⟨syms, hsyms, hsublist⟩

theorem content_cutEquals {word : List Symbol} {cut : List Char × List Symbol}
    (h : cutEquals word = some cut) : (content cut.2).Sublist (content word) := by
  fun_induction cutEquals word generalizing cut with
  | case1 rest =>
      cases h
      exact List.sublist_append_right ['='] (content rest)
  | case2 c rest _ ih =>
      obtain ⟨cut, hcut, rfl⟩ := Option.map_eq_some_iff.mp h
      exact (ih hcut).trans (List.sublist_append_right [c] (content rest))
  | case3 => cases h

theorem content_splitAssignments (words : List (List Symbol)) :
    ((splitAssignments words).1.flatMap fun assignment => content assignment.2).Sublist
      (words.flatMap content) := by
  fun_induction splitAssignments words with
  | case1 => exact List.nil_sublist _
  | case2 word rest hnone => exact List.nil_sublist _
  | case3 word rest assignment hsome ih =>
      obtain ⟨hcut, -⟩ := Option.filter_eq_some_iff.mp hsome
      exact (content_cutEquals hcut).append ih

/-- Expansions that come to nothing. -/
def Results.blank : Results where
  expansion _ := []
  home _ := []
  fields _ := []

theorem value_blank (mode : ValueMode) (word : List Symbol) :
    (value .blank mode word).Sublist (content word) := by
  have hcons : ∀ {text : List Char} {symbol : Symbol} {rest : List Symbol},
      text.Sublist (content rest) → text.Sublist (content (symbol :: rest)) := by
    intro text symbol rest hrest
    rw [content_cons]
    exact hrest.trans (List.sublist_append_right _ _)
  fun_induction value .blank mode word with
  | case1 => exact List.nil_sublist _
  | case2 rest ih | case3 rest _ ih | case7 rest _ ih | case8 c rest _ ih | case9 c rest ih =>
      exact ih.cons_cons _
  | case4 c rest _ _ ih | case5 symbol rest _ ih | case6 rest name _ ih
  | case10 mode text quoted rest _ ih => exact hcons ih
  | case11 mode symbol rest _ _ _ _ _ ih =>
      rw [content_cons]
      exact (List.Sublist.refl _).append ih

/-! ## What an assigned value cannot be -/

theorem exists_content_read {command : SimpleCommand}
    (h : read extent .blank text = some command) : ∃ syms,
    symbols extent (.unquoted true) (text.takeWhile (· ≠ '\x00')) = some syms ∧
      (command.assignments.flatMap Prod.snd).Sublist (content syms) := by
  obtain ⟨words, hwords, hcommand⟩ := Option.bind_eq_some_iff.mp h
  obtain ⟨syms, hsyms, hcontent⟩ := content_shellWords hwords
  refine ⟨syms, hsyms, ?_⟩
  split_ifs at hcommand
  cases hcommand
  have hvalues : ∀ assigned : List (List Char × List Symbol),
      ((assigned.map fun assignment => (assignment.1, value .blank .start assignment.2)).flatMap
        Prod.snd).Sublist (assigned.flatMap fun assignment => content assignment.2) := by
    intro assigned
    induction assigned with
    | nil => exact List.nil_sublist _
    | cons assignment assigned ih => exact (value_blank .start assignment.2).append ih
  exact (hvalues _).trans ((content_splitAssignments words).trans hcontent)

theorem notMem_takeWhile_ne (text : List Char) : '\x00' ∉ text.takeWhile (· ≠ '\x00') := by
  intro hmem
  simpa using List.mem_takeWhile_imp hmem

/-- Some quote of a text is in none of the values. -/
theorem countP_assigned_lt {command : SimpleCommand}
    (h : read extent .blank text = some command) (hquote : ∃ c ∈ text, c ∈ quotes) :
    (command.assignments.flatMap Prod.snd).countP (· ∈ quotes) < text.countP (· ∈ quotes) := by
  obtain ⟨syms, hsyms, hassigned⟩ := exists_content_read h
  have hle := hassigned.countP_le (p := (· ∈ quotes))
  have htext := (List.takeWhile_sublist (l := text) (· ≠ '\x00')).countP_le (p := (· ∈ quotes))
  by_cases hcut : ∃ c ∈ text.takeWhile (· ≠ '\x00'), c ∈ quotes
  · have hlt := countP_content_lt (Mode.open_unquoted true) (notMem_takeWhile_ne text) hsyms hcut
    omega
  · have hsymbols := (content_symbols hsyms).countP_le (p := (· ∈ quotes))
    have hzero : (text.takeWhile (· ≠ '\x00')).countP (· ∈ quotes) = 0 := by
      simpa [List.countP_eq_zero] using hcut
    have hpos : 0 < text.countP (· ∈ quotes) := by simpa [List.countP_pos_iff] using hquote
    omega

/-- From a text without quotes, only ordinary characters get into a value. -/
theorem ordinary_of_assigned {command : SimpleCommand}
    (h : read extent .blank text = some command) (hquotes : ∀ c ∈ text, c ∉ quotes) :
    ∀ assignment ∈ command.assignments, ∀ c ∈ assignment.2, Ordinary c := by
  intro assignment hassignment c hc
  obtain ⟨syms, hsyms, hassigned⟩ := exists_content_read h
  have hmem : c ∈ content syms :=
    hassigned.mem (List.mem_flatMap.mpr ⟨assignment, hassignment, hc⟩)
  refine ordinary_of_mem_content (Mode.open_unquoted true) (notMem_takeWhile_ne text) hsyms
    ?_ c hmem
  exact fun d hd => hquotes d ((List.takeWhile_sublist _).mem hd)

end

end Library.Shell
