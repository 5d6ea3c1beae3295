import DesignLens.Json.Writer
import DesignLens.Text.Case
import DesignLens.Text.Search

/-!
# Templates

A template engine fills in texts. There may be any; a small one for placeholders `{{ name }}` and
comments `{# … #}` is written here. It makes newlines of all line ends and drops one newline at the
end.
-/

namespace DesignLens.Text

/-- What a template comes to with values for its names, unless it is refused. -/
abbrev Engine : Type := Table Json → String → Option String

/-- A template filled in; one that is refused stands for itself. -/
def Engine.render (engine : Engine) (context : Table Json) (template : String) : String :=
  (engine context template).getD template

/-- What stands before and after the first occurrence of a needle. -/
def cut (needle : List Char) : List Char → Option (List Char × List Char)
  | [] => none
  | c :: rest =>
    if needle.isPrefixOf (c :: rest) then some ([], (c :: rest).drop needle.length)
    else (cut needle rest).map fun (front, back) => (c :: front, back)

theorem cut_length {needle cs front back : List Char} (h : cut needle cs = some (front, back)) :
    back.length ≤ cs.length := by
  induction cs generalizing front back with
  | nil => simp [cut] at h
  | cons c rest ih =>
    unfold cut at h
    split at h
    · simp only [Option.some.injEq, Prod.mk.injEq] at h
      rw [← h.2, List.length_drop]
      omega
    · simp only [Option.map_eq_some_iff] at h
      obtain ⟨⟨f, b⟩, hc, heq⟩ := h
      simp only [Prod.mk.injEq] at heq
      have := ih hc
      rw [← heq.2, List.length_cons]
      omega

/-- Words of the template language that are no names of values. -/
def templateWords : List String :=
  ["and", "else", "if", "in", "is", "not", "or"]

/-- The text for the inside of a placeholder, if that is a single name. A name without a value gives
the empty text. -/
def placeholderText (context : Table Json) (inside : List Char) : Option String :=
  match trimChars inside with
  | [] => none
  | c :: rest =>
    let name := String.ofList (c :: rest)
    if !(isNameStart c && rest.all isNamePart) || templateWords.contains name then none
    else if name == "true" || name == "True" then some "True"
    else if name == "false" || name == "False" then some "False"
    else if name == "none" || name == "None" then some "None"
    else some (((Table.find? name context).map Json.shown).getD "")

/-- The text of a template without its placeholders and comments; none if it is malformed. -/
def renderChars (context : Table Json) (cs : List Char) : Option (List Char) :=
  match cs with
  | [] => some []
  | '{' :: '{' :: rest =>
    match _h : cut ['}', '}'] rest with
    | none => none
    | some (inside, after) => do
      let text ← placeholderText context inside
      let tail ← renderChars context after
      return text.toList ++ tail
  | '{' :: '#' :: rest =>
    match _h : cut ['#', '}'] rest with
    | none => none
    | some (_, after) => renderChars context after
  | '{' :: '%' :: _ => none
  | c :: rest => (renderChars context rest).map (c :: ·)
termination_by cs.length
decreasing_by
  · have := cut_length _h
    simp only [List.length_cons]
    omega
  · have := cut_length _h
    simp only [List.length_cons]
    omega
  · simp

/-- Drops a newline at the end. -/
def dropFinalNewline (cs : List Char) : List Char :=
  match cs.reverse with
  | '\n' :: rest => rest.reverse
  | _ => cs

/-- The engine for placeholders and comments. -/
def placeholders : Engine := fun context template =>
  (renderChars context (dropFinalNewline (plainNewlines template.toList))).map String.ofList

end DesignLens.Text
