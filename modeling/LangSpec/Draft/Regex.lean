import LangSpec.Draft.Basic
import LangSpec.Literal
import LangSpec.Regex.References

/-!
# Writing regular expressions

The regular expressions of the tokens are put together from their parts by the
constructors of their types. Four steps depend on the draft: a name has to be
looked up, a repetition count has to be read, and labels and trailing contexts
need match marks.
-/

namespace LangSpec

/-- The regular expression matching the text of a literal. -/
def Regex.ofLiteral (l : Literal) : Regex :=
  .ofFactor (.literal { data := l.raw, kind := .text, loc := l.loc })

namespace Draft

variable (d : Draft)

/-- The regular definition named `name`, looked up from the current namespace
    outward. A sealed one cannot be used. -/
def refer (name : Name) : Option Factor × Draft :=
  match d.spec.regular? d.home name.text with
  | some (_, e) =>
    if e.isSealed then (none, d.report .sealedReference name.loc)
    else (some (.reference e.target name.loc), d)
  | none => (none, d.report (.unknownRegular name.text) name.loc)

/-- The repetition count written as `text`. In place of one that cannot be read
    stands `1`. -/
def repetitionCount (text : String) (loc : Location) : Nat × Draft :=
  match Text.readCount text with
  | .ok n => (n, d)
  | .error fault => (1, d.report (.badCount fault text) loc)

/-- A labelled part, `name: part`. The text it matches, between two new marks,
    goes to a new field. -/
def label (name : Name) (p : Part) : Part × Draft :=
  let type : TypeRef := .named { loc := name.loc } d.spec.stringType
  let f := d.spec.fields.next
  let enter := d.spec.marks.next
  let d := d.update fun s => (s.addField name.text name.loc .matchedText (some type)).addMark
  let leave := d.spec.marks.next
  (p.capture ⟨enter, leave, f⟩ name.loc, d.update (·.addMark))

/-- A regular expression with a trailing context, if there is one. -/
def withTrailing (r : Regex) (context : Option Regex) : Regex × Draft :=
  match context with
  | none => (r, d)
  | some c => (.trailing r.body c (some d.spec.marks.next), d.update (·.addMark))

end Draft

end LangSpec
