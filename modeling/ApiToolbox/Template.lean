import ApiToolbox.Text.Blank

/-!
Path templates. A placeholder is a name between an opening brace and the next closing one; the name
may hold further opening braces, and an empty one does not count.
-/

namespace ApiToolbox.Template

/-- The names of the placeholders in a text, in order of appearance. `pending` is the part read so far
of a name whose closing brace has not come yet, in reverse. -/
def scan (pending : Option (List Char)) : List Char → List (List Char)
  | [] => []
  | c :: r =>
    match pending with
    | none => scan (if c = '{' then some [] else none) r
    | some name =>
      if c = '}' then (if name = [] then scan none r else name.reverse :: scan none r)
      else scan (some (c :: name)) r

/-- The placeholder names of a template, repeated ones each time. -/
def placeholders (template : String) : List String :=
  (scan none template.toList).map String.ofList

def placeholder (name : String) : List Char := '{' :: (name.toList ++ ['}'])

/-- The template with the first placeholder of a name replaced. -/
def fillFirst (name : String) (text : List Char) (template : List Char) : List Char :=
  Text.replaceFirst (placeholder name) text template

end ApiToolbox.Template
