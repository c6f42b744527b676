/-!
What the names of elements and attributes mean on their own.
-/

namespace ComponentMarkup.Tag

/-- Elements that have neither content nor an end tag. -/
def isVoid (tag : String) : Bool :=
  ["area", "base", "br", "col", "embed", "hr", "img", "input", "link", "meta", "param", "source",
    "track", "wbr"].contains tag

/-- Hyphenated names that the standard vocabularies own. -/
def isReserved (tag : String) : Bool :=
  ["annotation-xml", "color-profile", "font-face", "font-face-src", "font-face-uri",
    "font-face-format", "font-face-name", "missing-glyph"].contains tag

/-- A hyphenated name that no standard vocabulary owns. -/
def isCustom (tag : String) : Bool := tag.toList.contains '-' && !isReserved tag

/-- Attributes that every element understands, so none of them is an input of a component. -/
def isGlobalAttribute (name : String) : Bool :=
  ["accesskey", "class", "contenteditable", "contextmenu", "dir", "draggable", "dropzone", "hidden",
    "id", "lang", "spellcheck", "style", "tabindex", "title", "translate"].contains name

end ComponentMarkup.Tag
