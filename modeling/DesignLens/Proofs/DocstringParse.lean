import DesignLens.Source.Grammar
import Mathlib.Data.List.Basic

/-!
# Parsing a text in triple quotes

A text in triple quotes without quotes and backslashes inside is one token, whatever it says. The
lexer is followed step by step through it. The parser is not: it decides by the kinds of the tokens
and never looks at what a string holds or where it stands, so that its run can be computed for an
arbitrary choice of these. A text in triple quotes on its own is a program with one statement.
-/

namespace DesignLens.Source

/-! ## Arguments that do not matter -/

/-- A test that passes on a supposed exception passes always. The exception is a choice that cannot
be computed, so a test can be evaluated on it only if it does not look at its argument. -/
theorem eq_true_of_epsilon {α : Type} [Nonempty α] (test : α → Bool)
    (h : test (Classical.epsilon fun a => test a = false) = true) (a : α) : test a = true := by
  cases ha : test a with
  | true => rfl
  | false =>
    have hexists : ∃ b, test b = false := ⟨a, ha⟩
    have hfalse := Classical.epsilon_spec hexists
    rw [h] at hfalse
    exact hfalse.symm

/-! ## The lexer -/

/-- Characters that neither end a string in triple quotes nor mean something else in it. -/
def isPlainChar (c : Char) : Bool := c != '"' && c != '\\' && c != '\r' && c != Char.ofNat 0

theorem isPlainChar_iff {c : Char} :
    isPlainChar c = true ↔ c ≠ '"' ∧ c ≠ '\\' ∧ c ≠ '\r' ∧ c ≠ Char.ofNat 0 := by
  simp only [isPlainChar, Bool.and_eq_true, bne_iff_ne, and_assoc]

theorem stringEnd_of_plain {body : List Char} (h : ∀ c ∈ body, isPlainChar c = true)
    (rest : List Char) (newlines : Nat) :
    stringEnd '"' 3 0 newlines (body ++ '"' :: '"' :: '"' :: rest) =
      .closed rest (newlines + body.count '\n') := by
  induction body generalizing newlines with
  | nil => simp [stringEnd]
  | cons c body ih =>
    obtain ⟨hquote, hslash, -⟩ := isPlainChar_iff.mp (h c List.mem_cons_self)
    have hbody := fun n => ih (fun d hd => h d (List.mem_cons_of_mem c hd)) n
    rw [List.cons_append, stringEnd]
    · rw [if_neg (by simp), if_neg hquote, hbody, List.count_cons]
      by_cases hline : c = '\n'
      · simp only [hline, if_true, beq_self_eq_true]
        rw [Nat.add_assoc, Nat.add_comm 1]
      · simp [hline]
    all_goals simp [hslash]

/-- The characters of a text in triple quotes. -/
def docstringChars (body : List Char) : List Char :=
  '"' :: '"' :: '"' :: (body ++ ['"', '"', '"'])

theorem mem_docstringChars {body : List Char} {c : Char} :
    c ∈ docstringChars body ↔ c = '"' ∨ c ∈ body := by
  simp only [docstringChars, List.mem_cons, List.mem_append, List.not_mem_nil, or_false]
  tauto

theorem ofChars_docstring {body : List Char} (h : ∀ c ∈ body, isPlainChar c = true) :
    ∃ inside opening, StringParts.ofChars (docstringChars body) =
      ⟨false, true, false, inside, opening⟩ := by
  have hletters : (docstringChars body).takeWhile Char.isAlpha = [] := rfl
  have hslash : (docstringChars body).contains '\\' = false := by
    rw [List.contains_eq_mem, decide_eq_false_iff_not, mem_docstringChars]
    rintro (hquote | hbody)
    · exact absurd hquote (by decide)
    · exact (isPlainChar_iff.mp (h _ hbody)).2.1 rfl
  unfold StringParts.ofChars
  rw [hletters, hslash]
  exact ⟨_, _, rfl⟩

/-- A scan at the start of a text that is not indented. -/
def Scan.atText (tokens : List Token) (chars : List Char) (position passed : Nat) : Scan :=
  ⟨⟨chars, position, passed⟩, [(0, 0)], [], tokens⟩

/-- The token of a text in triple quotes. -/
def docstringToken (body : List Char) (position passed : Nat) : Token :=
  .ofChars .string (docstringChars body)
    ⟨passed + 1, passed + 1 + body.count '\n', position,
      position + (docstringChars body).length⟩ 0

theorem lexString_docstring {body : List Char} (h : ∀ c ∈ body, isPlainChar c = true)
    (tokens : List Token) (rest : List Char) (position passed : Nat) :
    (Scan.atText tokens (docstringChars body ++ rest) position passed).lexString [] =
      .ok (Scan.atText (docstringToken body position passed :: tokens) rest
        (position + (docstringChars body).length) (passed + body.count '\n')) := by
  have hend : stringEnd '"' 3 0 0 (body ++ ['"', '"', '"'] ++ rest) =
      .closed rest (0 + body.count '\n') := by
    rw [List.append_assoc]
    exact stringEnd_of_plain h rest 0
  have hlength : (docstringChars body ++ rest).length - rest.length =
      (docstringChars body).length := by
    rw [List.length_append, Nat.add_sub_cancel]
  have htake : (docstringChars body ++ rest).take (docstringChars body).length =
      docstringChars body := List.take_left
  have hopen : docstringChars body ++ rest =
      '"' :: '"' :: '"' :: (body ++ ['"', '"', '"'] ++ rest) := rfl
  unfold Scan.lexString Scan.atText
  rw [hopen] at hlength htake ⊢
  simp only [List.length_nil, List.drop_zero, opensTriple, beq_self_eq_true, Bool.and_self, if_true,
    List.drop_succ_cons, hend, hlength, htake, Nat.zero_add]
  rfl

theorem step_docstring {body : List Char} (h : ∀ c ∈ body, isPlainChar c = true)
    (tokens : List Token) (rest : List Char) (position passed : Nat) :
    (Scan.atText tokens (docstringChars body ++ rest) position passed).step =
      .ok (Scan.atText (docstringToken body position passed :: tokens) rest
        (position + (docstringChars body).length) (passed + body.count '\n'), false) := by
  have hlex := lexString_docstring h tokens rest position passed
  have hstep : (Scan.atText tokens (docstringChars body ++ rest) position passed).step =
      ((Scan.atText tokens (docstringChars body ++ rest) position passed).lexString []).map
        fun s => (s, false) := rfl
  rw [hstep, hlex]
  rfl

theorem startLine_docstring (body : List Char) (tokens : List Token) (rest : List Char)
    (position passed : Nat) :
    (Scan.atText tokens (docstringChars body ++ rest) position passed).startLine =
      .ok (Scan.atText tokens (docstringChars body ++ rest) position passed, false) := rfl

theorem step_newline (tokens : List Token) (rest : List Char) (position passed : Nat) :
    (Scan.atText tokens ('\n' :: rest) position passed).step =
      .ok (Scan.atText (.ofChars .newline [] ⟨passed + 1, passed + 1, position, position⟩ 0 ::
        tokens) rest (position + 1) (passed + 1), true) :=
  rfl

/-- Three rounds of the scan read a text in triple quotes and the end of its line. -/
theorem run_docstring {body : List Char} (h : ∀ c ∈ body, isPlainChar c = true)
    (tokens : List Token) (rest : List Char) (position passed fuel : Nat) :
    Scan.run (fuel + 3) (.atText tokens (docstringChars body ++ '\n' :: rest) position passed)
        true =
      Scan.run fuel (.atText
          (.ofChars .newline [] ⟨passed + body.count '\n' + 1, passed + body.count '\n' + 1,
            position + (docstringChars body).length, position + (docstringChars body).length⟩ 0 ::
              docstringToken body position passed :: tokens)
          rest (position + (docstringChars body).length + 1) (passed + body.count '\n' + 1))
        true := by
  rw [Scan.run, if_pos rfl, startLine_docstring]
  simp only
  rw [Scan.run, if_neg (by simp), step_docstring h]
  simp only
  rw [Scan.run, if_neg (by simp), step_newline]

/-! ## The parser -/

/-- What the parser does not look at in a text with a string in triple quotes: what the string
holds, where it stands, and how many rounds more than necessary the lexer may take. -/
structure Unseen where
  chars : List Char
  inside : List Char
  opening : List Char
  spans : Span × Span
  position : Nat
  passed : Nat
  rounds : Nat

instance : Nonempty Unseen := ⟨⟨[], [], [], default, 0, 0, 0⟩⟩

/-- The string and the end of its line after other tokens, the last one first. -/
def Unseen.tokens (u : Unseen) (before : List Token) : List Token :=
  ⟨.newline, [], u.spans.2, 0, {}⟩ ::
    ⟨.string, u.chars, u.spans.1, 0, ⟨false, true, false, u.inside, u.opening⟩⟩ :: before

/-- The tokens of a text with given tokens before the string and given characters below it. -/
def Unseen.lexed (u : Unseen) (before : List Token) (below : List Char) : Lexed :=
  Scan.run (u.rounds + (2 * below.length + 4))
    (.atText (u.tokens before) below u.position u.passed) true

/-- The parse of a text with given tokens before the string and given characters below it. -/
def Unseen.parse (u : Unseen) (before : List Token) (below : List Char) : Except Verdict Module :=
  settle (parseModule grammar) (u.lexed before below)

/-- What follows a text in triple quotes is read as after any other one. -/
theorem exists_unseen_run {body : List Char} (h : ∀ c ∈ body, isPlainChar c = true)
    (tokens : List Token) (below : List Char) (position passed rounds : Nat) :
    ∃ u : Unseen, Scan.run (rounds + (2 * (docstringChars body ++ '\n' :: below).length + 4))
        (.atText tokens (docstringChars body ++ '\n' :: below) position passed) true =
      u.lexed tokens below := by
  obtain ⟨inside, opening, hparts⟩ := ofChars_docstring h
  have hfuel : rounds + (2 * (docstringChars body ++ '\n' :: below).length + 4) =
      rounds + 2 * body.length + 11 + (2 * below.length + 4) + 3 := by
    simp only [docstringChars, List.cons_append, List.length_cons, List.length_append,
      List.length_nil]
    omega
  refine ⟨⟨docstringChars body, inside, opening,
    ((docstringToken body position passed).span,
      ⟨passed + body.count '\n' + 1, passed + body.count '\n' + 1,
        position + (docstringChars body).length, position + (docstringChars body).length⟩),
    position + (docstringChars body).length + 1, passed + body.count '\n' + 1,
    rounds + 2 * body.length + 11⟩, ?_⟩
  rw [hfuel, run_docstring h]
  unfold Unseen.lexed Unseen.tokens
  simp only [docstringToken, Token.ofChars, hparts]
  rfl

/-! ## Whole texts -/

theorem map_fst_uniformLineEnds {cs : List Char} (h : '\r' ∉ cs) (n : Nat) :
    (uniformLineEnds n cs).map Prod.fst = cs := by
  induction cs generalizing n with
  | nil => rfl
  | cons c rest ih =>
    rw [List.mem_cons, not_or] at h
    rw [uniformLineEnds]
    · simp [Ne.symm h.1, ih h.2]
    · intro rest' hc
      exact absurd hc.symm h.1

/-- Line ends of one spelling stay as they are. -/
theorem chars_ofText {text : String} (h : '\r' ∉ text.toList) :
    (Layout.ofText text).chars =
      if endsOpen text.toList then text.toList ++ ['\n'] else text.toList := by
  unfold Layout.ofText
  simp only [map_fst_uniformLineEnds h]

theorem endsOpen_append_newline {cs : List Char} (h : '\r' ∉ cs) :
    endsOpen (cs ++ ['\n']) = false := by
  unfold endsOpen
  rw [List.reverse_append, List.reverse_singleton, List.singleton_append]
  cases hlast : cs.reverse with
  | nil => rfl
  | cons c rest =>
    have hc : c ≠ '\r' := by
      rintro rfl
      exact h (List.mem_reverse.mp (hlast ▸ List.mem_cons_self))
    simp [hc]

theorem endsOpen_docstringChars (body : List Char) : endsOpen (docstringChars body) = true := by
  have hreverse : (docstringChars body).reverse =
      '"' :: '"' :: '"' :: (body.reverse ++ ['"', '"', '"']) := by
    simp [docstringChars]
  unfold endsOpen
  rw [hreverse]
  rfl

/-- What is parsed are the characters with uniform line ends. -/
theorem map_module_parse (text : String) :
    (Program.parse text).map Program.module =
      if text.toList.contains (Char.ofNat 0) then .error ⟨.nullByte, none⟩
      else (settle (parseModule grammar) (lex (Layout.ofText text).chars 1)).mapError
        (·.fault) := by
  unfold Program.parse
  split_ifs
  · rfl
  · simp only
    cases settle (parseModule grammar) (lex (Layout.ofText text).chars 1) <;> rfl

/-- What stands before and below a string in triple quotes decides how a text is parsed. -/
theorem map_module_parse_around {text : String} {front body below : List Char}
    {before : List Token} {rounds position passed : Nat}
    (hchars : (Layout.ofText text).chars = front ++ (docstringChars body ++ '\n' :: below))
    (hnull : Char.ofNat 0 ∉ text.toList) (hbody : ∀ c ∈ body, isPlainChar c = true)
    (hrounds : rounds ≤ 2 * front.length)
    (hfront : ∀ tail fuel, Scan.run (fuel + rounds) (.atText [] (front ++ '"' :: tail) 0 0) true =
      Scan.run fuel (.atText before ('"' :: tail) position passed) true) :
    ∃ u : Unseen, (Program.parse text).map Program.module =
      (u.parse before below).mapError (·.fault) := by
  obtain ⟨more, hmore⟩ := Nat.exists_eq_add_of_le hrounds
  obtain ⟨u, hu⟩ := exists_unseen_run hbody before below position passed more
  have hfuel : 2 * (Layout.ofText text).chars.length + 4 =
      more + (2 * (docstringChars body ++ '\n' :: below).length + 4) + rounds := by
    rw [hchars, List.length_append]
    omega
  have hlex : lex (Layout.ofText text).chars 1 = u.lexed before below := by
    unfold lex
    rw [hfuel, hchars, ← hu]
    exact hfront _ _
  refine ⟨u, ?_⟩
  rw [map_module_parse, if_neg (by simpa using hnull), hlex]
  rfl

/-- A module with one statement, which is an expression. -/
def isLoneExpression : Except Verdict Module → Bool
  | .ok ⟨[.expr _ _]⟩ => true
  | _ => false

theorem eq_ok_of_isLoneExpression {r : Except Verdict Module} (h : isLoneExpression r = true) :
    ∃ span e, r = .ok ⟨[.expr span e]⟩ := by
  unfold isLoneExpression at h
  split at h
  · exact ⟨_, _, rfl⟩
  · simp at h

/-- A text in triple quotes is a program of one expression. -/
theorem parse_docstring {text : String} {body : List Char} (ht : text.toList = docstringChars body)
    (h : ∀ c ∈ body, isPlainChar c = true) :
    ∃ span e, (Program.parse text).map Program.module = .ok ⟨[.expr span e]⟩ := by
  have hreturn : '\r' ∉ text.toList := by
    rw [ht, mem_docstringChars]
    rintro (hquote | hbody)
    · exact absurd hquote (by decide)
    · exact (isPlainChar_iff.mp (h _ hbody)).2.2.1 rfl
  have hnull : Char.ofNat 0 ∉ text.toList := by
    rw [ht, mem_docstringChars]
    rintro (hquote | hbody)
    · exact absurd hquote (by decide)
    · exact (isPlainChar_iff.mp (h _ hbody)).2.2.2 rfl
  have hchars : (Layout.ofText text).chars = [] ++ (docstringChars body ++ ['\n']) := by
    rw [chars_ofText hreturn, ht, if_pos (endsOpen_docstringChars body), List.nil_append]
  obtain ⟨u, hu⟩ := map_module_parse_around hchars hnull h (Nat.zero_le _) fun _ _ => rfl
  obtain ⟨span, e, hlone⟩ := eq_ok_of_isLoneExpression (eq_true_of_epsilon
    (fun u : Unseen => isLoneExpression (u.parse [] [])) (by decide +kernel) u)
  rw [hlone] at hu
  exact ⟨span, e, hu⟩

/-- A newline at the end of a text that has none makes no difference. -/
theorem map_module_parse_append_newline {text : String} (hreturn : '\r' ∉ text.toList)
    (hopen : endsOpen text.toList = true) :
    (Program.parse (text ++ "\n")).map Program.module =
      (Program.parse text).map Program.module := by
  have htext : (text ++ "\n").toList = text.toList ++ ['\n'] := String.toList_append
  have hclosed := endsOpen_append_newline hreturn
  have hchars : (Layout.ofText (text ++ "\n")).chars = (Layout.ofText text).chars := by
    rw [chars_ofText hreturn, chars_ofText (by simpa [htext] using hreturn), htext, if_pos hopen,
      hclosed]
    rfl
  have hnull : (text ++ "\n").toList.contains (Char.ofNat 0) =
      text.toList.contains (Char.ofNat 0) := by
    rw [htext]
    simp
  rw [map_module_parse, map_module_parse, hchars, hnull]

end DesignLens.Source
