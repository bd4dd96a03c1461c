import SocketCensus.Proofs.Number.Numeral
import SocketCensus.Settings.Toml.Document

/-!
A settings document of one line that gives an integer. The line falls into six tokens, its word is
read as a number and as nothing else, and the document means the one entry that is written.
-/
namespace SocketCensus.Toml

variable {c : Char} {n : Int} {cs word rest : List Char}

namespace Token

theorem isBlankChar_of_isWordChar (hc : isWordChar c = true) : isBlankChar c = false := by
  rw [Bool.eq_false_iff]
  intro hblank
  rcases (Bool.or_eq_true _ _).mp hblank with h | h
  · rw [eq_of_beq h] at hc
    exact absurd hc (by decide)
  · rw [eq_of_beq h] at hc
    exact absurd hc (by decide)

theorem first?_word (hc : isWordChar c = true) (rest : List Char) :
    first? c rest = some (.word (c :: rest.takeWhile isWordChar), rest.dropWhile isWordChar) := by
  have hblank := isBlankChar_of_isWordChar hc
  unfold first?
  split
  case h_14 => simp [hblank, hc]
  all_goals exact absurd hc (by decide)

theorem foldReturns_of_not_mem (hcs : '\r' ∉ cs) : foldReturns cs = cs := by
  fun_induction foldReturns cs with
  | case1 => rfl
  | case2 rest ih => simp at hcs
  | case3 c rest h ih =>
    simp at hcs
    rw [ih hcs.2]

/-- A word is cut off in front of the next character that is none of its own. -/
theorem tokensFrom?_word (hne : word ≠ []) (hword : ∀ c ∈ word, isWordChar c = true)
    (hrest : ∀ c ∈ rest.head?, isWordChar c = false) (fuel : Nat) :
    tokensFrom? (fuel + 1) (word ++ rest) = (tokensFrom? fuel rest).map (.word word :: ·) := by
  obtain ⟨c, others, rfl⟩ := List.exists_cons_of_ne_nil hne
  have hothers : ∀ d ∈ others, isWordChar d = true := fun d hd => hword d (List.mem_cons_of_mem c hd)
  have htake : rest.takeWhile isWordChar = [] := by
    cases rest with
    | nil => rfl
    | cons d rest => simp [hrest d rfl]
  have hdrop : rest.dropWhile isWordChar = rest := by
    cases rest with
    | nil => rfl
    | cons d rest => simp [hrest d rfl]
  rw [List.cons_append, tokensFrom?, first?_word (hword c List.mem_cons_self),
    List.takeWhile_append_of_pos hothers, List.dropWhile_append_of_pos hothers, htake, hdrop,
    List.append_nil]

/-- A document that begins with a word character and has no carriage return is read as it is. -/
theorem tokens?_of_plain (hcs : '\r' ∉ cs) (hhead : ∀ c ∈ cs.head?, isWordChar c = true) :
    tokens? cs = tokensFrom? cs.length cs := by
  unfold tokens?
  split
  · exact absurd (hhead _ rfl) (by decide)
  · rw [foldReturns_of_not_mem hcs]

theorem tokens?_line {key : List Char} (hkey : key ≠ []) (hkeyWord : ∀ c ∈ key, isWordChar c = true)
    (hne : word ≠ []) (hword : ∀ c ∈ word, isWordChar c = true) :
    tokens? (key ++ (" = ".toList ++ (word ++ ['\n']))) =
      some [.word key, .blank [' '], .equals, .blank [' '], .word word, .newline] := by
  have hreturn : '\r' ∉ key ++ (" = ".toList ++ (word ++ ['\n'])) := by
    intro hmem
    simp only [List.mem_append] at hmem
    rcases hmem with hmem | hmem | hmem | hmem
    · exact absurd (hkeyWord _ hmem) (by decide)
    · exact absurd hmem (by decide)
    · exact absurd (hword _ hmem) (by decide)
    · exact absurd hmem (by decide)
  have hhead : ∀ c ∈ (key ++ (" = ".toList ++ (word ++ ['\n']))).head?, isWordChar c = true := by
    intro c hc
    rw [List.head?_append_of_ne_nil _ hkey] at hc
    exact hkeyWord c (List.mem_of_mem_head? hc)
  obtain ⟨fuel, hfuel⟩ : ∃ fuel, (key ++ (" = ".toList ++ (word ++ ['\n']))).length = fuel + 6 := by
    have hkeyLength := List.length_pos_of_ne_nil hkey
    have hwordLength := List.length_pos_of_ne_nil hne
    refine ⟨key.length + word.length - 2, ?_⟩
    simp
    omega
  have hmiddle : tokensFrom? (fuel + 5) (" = ".toList ++ (word ++ ['\n'])) =
      (tokensFrom? (fuel + 2) (word ++ ['\n'])).map fun tokens =>
        .blank [' '] :: .equals :: .blank [' '] :: tokens := by
    obtain ⟨c, others, rfl⟩ := List.exists_cons_of_ne_nil hne
    have hblank := isBlankChar_of_isWordChar (hword c List.mem_cons_self)
    have hequals : isBlankChar '=' = false := by decide
    have hspace : isBlankChar ' ' = true := by decide
    simp [tokensFrom?, first?, hblank, hequals, hspace, Function.comp_def]
  have hspaced : ∀ c ∈ (" = ".toList ++ (word ++ ['\n'])).head?, isWordChar c = false := by
    intro c hc
    cases hc
    decide
  have hbroken : ∀ c ∈ ['\n'].head?, isWordChar c = false := by
    intro c hc
    cases hc
    decide
  rw [tokens?_of_plain hreturn hhead, hfuel, tokensFrom?_word hkey hkeyWord hspaced, hmiddle,
    tokensFrom?_word hne hword hbroken]
  simp [tokensFrom?, first?]

end Token

theorem hexValue?_of_isDigit (hc : c.isDigit = true) :
    Token.hexValue? c = some (c.toNat - '0'.toNat) := by
  simp only [Char.isDigit, Bool.and_eq_true, decide_eq_true_eq] at hc
  exact if_pos hc

namespace Run

theorem isDigit_of_isDigit (hc : c.isDigit = true) : isDigit 10 c = true := by
  have hvalue := hexValue?_of_isDigit hc
  simp only [Char.isDigit, Bool.and_eq_true, decide_eq_true_eq] at hc
  have hlow : 48 ≤ c.toNat := hc.1
  have hhigh : c.toNat ≤ 57 := hc.2
  have hsmall : c.toNat - 48 < 10 := by omega
  simp [isDigit, hvalue, hsmall]

/-- Once a number has begun with another digit than zero, all digits belong to it. -/
theorem split?_going (hcs : ∀ c ∈ cs, c.isDigit = true) :
    split? 10 false ⟨false, false, false⟩ cs = some (cs, []) := by
  induction cs with
  | nil => rfl
  | cons c rest ih =>
    have hc := isDigit_of_isDigit (hcs c List.mem_cons_self)
    have hrest := ih fun d hd => hcs d (List.mem_cons_of_mem c hd)
    simp [split?, hc, hrest]

theorem split?_toDigits (m : Nat) :
    split? 10 false .start (Nat.toDigits 10 m) = some (Nat.toDigits 10 m, []) := by
  obtain ⟨c, rest, hdigits⟩ := List.exists_cons_of_ne_nil (Nat.toDigits_ne_nil (n := m) (b := 10))
  have hall : ∀ d ∈ c :: rest, d.isDigit = true := fun d hd =>
    Decimal.isDigit_of_mem_toDigits (m := m) (hdigits ▸ hd)
  rw [hdigits]
  by_cases hzero : c = '0'
  · subst hzero
    obtain ⟨-, rfl⟩ := Decimal.toDigits_zero_cons hdigits
    rfl
  · have hc := isDigit_of_isDigit (hall c List.mem_cons_self)
    have hrest := split?_going fun d hd => hall d (List.mem_cons_of_mem c hd)
    simp [split?, start, hzero, hc, hrest]

end Run

theorem valueIn_toDigits (m : Nat) : valueIn 10 (Nat.toDigits 10 m) = m :=
  Decimal.foldl_toDigits (fun c hc => by rw [hexValue?_of_isDigit hc, Option.getD_some]) m

theorem splitSign_toDigits (m : Nat) :
    splitSign (Nat.toDigits 10 m) = (false, Nat.toDigits 10 m) := by
  have hdigits (c : Char) (hc : c ∈ Nat.toDigits 10 m) : c.isDigit = true :=
    Decimal.isDigit_of_mem_toDigits hc
  unfold splitSign
  split
  · rename_i rest heq
    exact absurd (hdigits '-' (heq ▸ List.mem_cons_self)) (by decide)
  · rename_i rest heq
    exact absurd (hdigits '+' (heq ▸ List.mem_cons_self)) (by decide)
  · rfl

theorem integer?_toString (hlow : -2 ^ 63 ≤ n) (hhigh : n < 2 ^ 63) :
    integer? (toString n).toList = some n := by
  have hrange : inRange? n = some n := by
    refine if_pos ?_
    show -(9223372036854775807 : Int) - 1 ≤ n ∧ n ≤ 9223372036854775807
    omega
  rw [Decimal.toList_toString]
  split
  · rename_i hn
    have hvalue : (n.toNat : Int) = n := Int.toNat_of_nonneg hn
    generalize n.toNat = m at hvalue ⊢
    simp [integer?, splitSign_toDigits, Run.split?_toDigits, valueIn_toDigits, hvalue, hrange]
  · rename_i hn
    have hvalue : -((-n).toNat : Int) = n := by omega
    generalize (-n).toNat = m at hvalue ⊢
    simp [integer?, splitSign, Run.split?_toDigits, valueIn_toDigits, hvalue, hrange]

theorem isWordChar_of_mem_toString (hc : c ∈ (toString n).toList) : Token.isWordChar c = true := by
  rcases Decimal.hyphen_or_isDigit_of_mem_toString hc with rfl | hdigit
  · decide
  · simp [Token.isWordChar, Char.isAlphanum, hdigit]

namespace Reader

variable {ts : List Token}

theorem pure_apply {α : Type} (a : α) (ts : List Token) :
    (StateT.pure a : Reader α) ts = some (a, ts) := rfl

theorem eat_of_head?_ne {t : Token} (h : ts.head? ≠ some t) : eat t ts = some (false, ts) := by
  cases ts with
  | nil => rfl
  | cons first rest =>
    have hne : first ≠ t := fun heq => h (congrArg some heq)
    simp [eat, hne]

/-- The text of an integer is no number in another base, of another kind or with a fraction. -/
theorem number_toString (hlow : -2 ^ 63 ≤ n) (hhigh : n < 2 ^ 63) (hts : ts.head? ≠ some .period) :
    number (toString n).toList ts = some (.integer n, ts) := by
  have hmark : (toString n).toList.any isExponentMark = false := by
    rw [List.any_eq_false]
    intro c hc hexponent
    rcases (Bool.or_eq_true _ _).mp hexponent with h | h
    · exact Decimal.not_mem_toString (by decide) (by decide) (eq_of_beq h ▸ hc)
    · exact Decimal.not_mem_toString (by decide) (by decide) (eq_of_beq h ▸ hc)
  have hinf : (toString n).toList ≠ ['i', 'n', 'f'] := Decimal.toList_toString_ne rfl
  have hminusInf : (toString n).toList ≠ ['-', 'i', 'n', 'f'] := Decimal.toList_toString_ne rfl
  have hnan : (toString n).toList ≠ ['n', 'a', 'n'] := Decimal.toList_toString_ne rfl
  have hminusNan : (toString n).toList ≠ ['-', 'n', 'a', 'n'] := Decimal.toList_toString_ne rfl
  have hinteger := integer?_toString hlow hhigh
  have heat := eat_of_head?_ne hts
  rw [number]
  · -- from here on nothing is computed from the text itself
    generalize (toString n).toList = word at *
    simp [hmark, heat, hinteger, hinf, hminusInf, hnan, hminusNan, integer, bind, StateT.bind, pure,
      pure_apply]
  · exact fun _ => Decimal.toList_toString_ne rfl
  · exact fun _ => Decimal.toList_toString_ne rfl
  · exact fun _ => Decimal.toList_toString_ne rfl

theorem looksLikeDate_toString (n : Int) : looksLikeDate (toString n).toList = false := by
  have hmark : 'T' ∉ (toString n).toList := Decimal.not_mem_toString (by decide) (by decide)
  have hmark' : 't' ∉ (toString n).toList := Decimal.not_mem_toString (by decide) (by decide)
  have htail : '-' ∉ (toString n).toList.tail := by
    intro hmem
    exact absurd (Decimal.isDigit_of_mem_tail_toString hmem) (by decide)
  generalize (toString n).toList = word at *
  simp [looksLikeDate, hmark, hmark', htail]

theorem startsNumber_toString (n : Int) : startsNumber (toString n).toList = true := by
  have hchars : ∀ c ∈ (toString n).toList, c = '-' ∨ c.isDigit = true := fun _ =>
    Decimal.hyphen_or_isDigit_of_mem_toString
  obtain ⟨c, rest, hword⟩ := List.exists_cons_of_ne_nil (Decimal.toList_toString_ne_nil n)
  rw [hword] at hchars ⊢
  rcases hchars c List.mem_cons_self with rfl | hdigit
  · simp [startsNumber]
  · simp [startsNumber, Decimal.isDigit, Decimal.digit?_of_isDigit hdigit]

/-- A word with the text of an integer is read as this integer, if it is a word of its own. -/
theorem value_toString (hlow : -2 ^ 63 ≤ n) (hhigh : n < 2 ^ 63) (hcolon : ts.head? ≠ some .colon)
    (hperiod : ts.head? ≠ some .period) (fuel : Nat) :
    value (fuel + 1) (.word (toString n).toList :: ts) = some (.integer n, ts) := by
  have htrue : (toString n).toList ≠ ['t', 'r', 'u', 'e'] := Decimal.toList_toString_ne rfl
  have hfalse : (toString n).toList ≠ ['f', 'a', 'l', 's', 'e'] := Decimal.toList_toString_ne rfl
  have hstarts := startsNumber_toString n
  have hdate := looksLikeDate_toString n
  have hnumber := number_toString hlow hhigh hperiod
  have heat := eat_of_head?_ne hcolon
  generalize (toString n).toList = word at *
  simp [value, next, numberOrDate, htrue, hfalse, hstarts, hdate, heat, hnumber, bind, StateT.bind]

/-- An entry on a line is read as one field, with nothing after it. -/
theorem sections_line (hlow : -2 ^ 63 ≤ n) (hhigh : n < 2 ^ 63) (key : List Char) :
    sections 7 ⟨[], false, []⟩ [.word key, .blank [' '], .equals, .blank [' '],
      .word (toString n).toList, .newline] =
      some ([⟨[], false, [(String.ofList key, .integer n)]⟩], []) := by
  have hvalue : value 6 [.word (toString n).toList, .newline] = some (.integer n, [.newline]) :=
    value_toString hlow hhigh (by simp) (by simp) 5
  generalize (toString n).toList = word at *
  simp [sections, entry, gap, peek, path, Reader.key, next, blanks, eat, expect, finishLine, lineEnd,
    hvalue, written, Term.write?, bind, StateT.bind, pure, pure_apply]

end Reader

theorem Section.value?_line {key : String} (hkey : key ≠ dateKey) (n : Int) :
    value? [⟨[], false, [(key, .integer n)]⟩] = some (.table [(key, .integer n)]) := by
  let line : Section := ⟨[], false, [(key, .integer n)]⟩
  have hfirst : firstKey? [line] ≠ some dateKey := by simp [firstKey?, line, hkey]
  have hown : ownFields? [line] = some [(key, .integer n)] := rfl
  have hheads : heads [line] = [] := rfl
  have hfields : Value.ofFields? [(key, .integer n)] = some (.table [(key, .integer n)]) := rfl
  have htable : tableOf? 1 [line] = some (.table [(key, .integer n)], []) := by
    rw [tableOf?, if_neg hfirst, hown, hheads]
    simp [hfields]
  exact congrArg (Option.map Prod.fst) htable

/-- A line with a key and the text of an integer is a document with this entry. -/
theorem parse?_line {key : String} (hne : key ≠ "")
    (hkey : ∀ c ∈ key.toList, Token.isWordChar c = true) (hlow : -2 ^ 63 ≤ n) (hhigh : n < 2 ^ 63) :
    parse? s!"{key} = {n}\n".toList = some (.table [(key, .integer n)]) := by
  have htext : s!"{key} = {n}\n".toList =
      key.toList ++ (" = ".toList ++ ((toString n).toList ++ ['\n'])) := by
    show (key ++ " = " ++ toString n ++ "\n").toList = _
    simp only [String.toList_append, List.append_assoc]
    rfl
  have hdate : key ≠ dateKey := by
    rintro rfl
    exact absurd (hkey '$' (by decide)) (by decide)
  have htokens := Token.tokens?_line (by simpa using hne) hkey (Decimal.toList_toString_ne_nil n)
    fun _ => isWordChar_of_mem_toString
  have hsections := Reader.sections_line hlow hhigh key.toList
  rw [parse?, htext, htokens]
  generalize (toString n).toList = word at *
  simp [StateT.run, hsections, Section.value?_line hdate]

end SocketCensus.Toml
