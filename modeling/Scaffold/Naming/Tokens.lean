import Scaffold.Naming.Style
import Scaffold.Tokens

/-! Tokens that follow from a name or from a project.

Every generated item offers its name in five styles, and an item that belongs to a project offers
six tokens of that project beside them. -/

set_option autoImplicit false

namespace Scaffold.Naming

/-- The tokens of an item: each token name with the style in which it gives the item's name. -/
def itemStyles : List (String × Style) :=
  [("name", .verbatim), ("class", .classLike), ("variable", .variableLike), ("snake", .snake),
    ("kebab", .kebab)]

def itemTokens (name : String) : Tokens :=
  Tokens.ofList (itemStyles.map fun (token, style) => (token, style.apply name))

structure Project where
  /-- Hyphenated name, such as `my-plugin`. -/
  slug : String
  /-- What the project's identifiers begin with, such as `myplugin_`. -/
  identifierPrefix : String
  textDomain : String
  rootNamespace : String
deriving DecidableEq, Repr

/-- The tokens of a project: its four names, the slug in class style, and the identifier prefix in
capitals. -/
def Project.tokens (project : Project) : Tokens :=
  Tokens.ofList
    [("slug", project.slug),
      ("prefix", project.identifierPrefix),
      ("textDomain", project.textDomain),
      ("namespace", project.rootNamespace),
      ("Slug", Style.slugLike.apply project.slug),
      ("PREFIX", String.ofList (project.identifierPrefix.toList.map Char.toUpper))]

end Scaffold.Naming
