/-!
Names that the reading of markup treats specially.
-/

namespace ComponentMarkup.Html

/-- The vocabulary an element belongs to. -/
inductive Space where
  | html
  | svg
  | math
deriving DecidableEq

/-- Elements that an end tag of another name does not close. -/
def isSpecial (name : String) : Bool :=
  ["address", "applet", "area", "article", "aside", "base", "basefont", "bgsound", "blockquote",
    "body", "br", "button", "caption", "center", "col", "colgroup", "dd", "details", "dir", "div",
    "dl", "dt", "embed", "fieldset", "figcaption", "figure", "footer", "form", "frame", "frameset",
    "h1", "h2", "h3", "h4", "h5", "h6", "head", "header", "hgroup", "hr", "html", "iframe", "img",
    "input", "isindex", "li", "link", "listing", "main", "marquee", "menu", "meta", "nav",
    "noembed", "noframes", "noscript", "object", "ol", "p", "param", "plaintext", "pre", "script",
    "section", "select", "source", "style", "summary", "table", "tbody", "td", "template",
    "textarea", "tfoot", "th", "thead", "title", "tr", "track", "ul", "wbr", "xmp"].contains name

/-- Elements of the svg and math vocabularies whose contents are markup. -/
def isForeignHolder (space : Space) (name : String) : Bool :=
  match space with
  | .html => false
  | .svg => ["foreignObject", "desc", "title"].contains name
  | .math => ["mi", "mo", "mn", "ms", "mtext"].contains name

def isHeading (name : String) : Bool := ["h1", "h2", "h3", "h4", "h5", "h6"].contains name

/-- Block elements that close an open paragraph and are closed by their end tag alone. -/
def isBlock (name : String) : Bool :=
  ["address", "article", "aside", "blockquote", "center", "details", "dialog", "dir", "div", "dl",
    "fieldset", "figcaption", "figure", "footer", "header", "hgroup", "main", "menu", "nav", "ol",
    "search", "section", "summary", "ul"].contains name

/-- Elements that format text and are reopened where they were closed by accident. -/
def isFormatting (name : String) : Bool :=
  ["b", "big", "code", "em", "font", "i", "s", "small", "strike", "strong", "tt", "u"].contains name

/-- Elements whose end tag may be left out. -/
def hasImpliedEnd (name : String) : Bool :=
  ["dd", "dt", "li", "optgroup", "option", "p", "rb", "rp", "rt", "rtc"].contains name

def hasImpliedEndThoroughly (name : String) : Bool :=
  hasImpliedEnd name ||
    ["caption", "colgroup", "tbody", "td", "tfoot", "th", "thead", "tr"].contains name

/-- Elements of the head, wherever they stand. -/
def isHeadContent (name : String) : Bool :=
  ["base", "basefont", "bgsound", "link", "meta", "noframes", "script", "style", "template",
    "title"].contains name

/-- Parts of a table that a cell or a caption cannot hold. -/
def isTablePart (name : String) : Bool :=
  ["caption", "col", "colgroup", "tbody", "td", "tfoot", "th", "thead", "tr"].contains name

def isTableSection (name : String) : Bool := ["tbody", "tfoot", "thead"].contains name

def isCell (name : String) : Bool := ["td", "th"].contains name

/-! ## Scopes -/

/-- Elements that hide what is open outside them. -/
def boundsScope (space : Space) (name : String) : Bool :=
  match space with
  | .html =>
      ["applet", "caption", "html", "marquee", "object", "table", "td", "template", "th"].contains
        name
  | _ => isForeignHolder space name

def boundsListScope (space : Space) (name : String) : Bool :=
  boundsScope space name || (space = .html && ["ol", "ul"].contains name)

def boundsButtonScope (space : Space) (name : String) : Bool :=
  boundsScope space name || (space = .html && name = "button")

def boundsTableScope (space : Space) (name : String) : Bool :=
  space = .html && ["html", "table", "template"].contains name

def boundsSelectScope (space : Space) (name : String) : Bool :=
  !(space = .html && ["optgroup", "option"].contains name)

/-! ## Foreign names -/

/-- The svg elements that are not spelled in small letters. -/
def svgTags : List String :=
  ["altGlyph", "altGlyphDef", "altGlyphItem", "animateColor", "animateMotion", "animateTransform",
    "clipPath", "feBlend", "feColorMatrix", "feComponentTransfer", "feComposite",
    "feConvolveMatrix", "feDiffuseLighting", "feDisplacementMap", "feDistantLight",
    "feDropShadow", "feFlood", "feFuncA", "feFuncB", "feFuncG", "feFuncR", "feGaussianBlur",
    "feImage", "feMerge", "feMergeNode", "feMorphology", "feOffset", "fePointLight",
    "feSpecularLighting", "feSpotLight", "feTile", "feTurbulence", "foreignObject", "glyphRef",
    "linearGradient", "radialGradient", "textPath"]

/-- The svg attributes that are not spelled in small letters. -/
def svgAttributes : List String :=
  ["attributeName", "attributeType", "baseFrequency", "baseProfile", "calcMode", "clipPathUnits",
    "diffuseConstant", "edgeMode", "filterUnits", "glyphRef", "gradientTransform",
    "gradientUnits", "kernelMatrix", "kernelUnitLength", "keyPoints", "keySplines", "keyTimes",
    "lengthAdjust", "limitingConeAngle", "markerHeight", "markerUnits", "markerWidth",
    "maskContentUnits", "maskUnits", "numOctaves", "pathLength", "patternContentUnits",
    "patternTransform", "patternUnits", "pointsAtX", "pointsAtY", "pointsAtZ", "preserveAlpha",
    "preserveAspectRatio", "primitiveUnits", "refX", "refY", "repeatCount", "repeatDur",
    "requiredExtensions", "requiredFeatures", "specularConstant", "specularExponent",
    "spreadMethod", "startOffset", "stdDeviation", "stitchTiles", "surfaceScale",
    "systemLanguage", "tableValues", "targetX", "targetY", "textLength", "viewBox", "viewTarget",
    "xChannelSelector", "yChannelSelector", "zoomAndPan"]

/-- Foreign attributes that carry a name space in front of their name. -/
def spacedAttributes : List String :=
  ["xlink:actuate", "xlink:arcrole", "xlink:href", "xlink:role", "xlink:show", "xlink:title",
    "xlink:type", "xml:lang", "xml:space", "xmlns:xlink"]

/-- Start tags that end foreign content. -/
def leavesForeign (name : String) : Bool :=
  isHeading name ||
    ["b", "big", "blockquote", "body", "br", "center", "code", "dd", "div", "dl", "dt", "em",
      "embed", "head", "hr", "i", "img", "li", "listing", "menu", "meta", "nobr", "ol", "p", "pre",
      "ruby", "s", "small", "span", "strong", "strike", "sub", "sup", "table", "tt", "u", "ul",
      "var"].contains name

end ComponentMarkup.Html
