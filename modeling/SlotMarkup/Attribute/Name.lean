/-! Names of attributes: the keys of properties and the names in markup. -/

namespace SlotMarkup

def hyphenatedNames : List String := [
  "accentHeight", "alignmentBaseline", "arabicForm", "baselineShift", "capHeight", "clipPath",
  "clipRule", "colorInterpolation", "colorInterpolationFilters", "colorProfile",
  "colorRendering", "dominantBaseline", "enableBackground", "fillOpacity", "fillRule",
  "floodColor", "floodOpacity", "fontFamily", "fontSize", "fontSizeAdjust", "fontStretch",
  "fontStyle", "fontVariant", "fontWeight", "glyphName", "glyphOrientationHorizontal",
  "glyphOrientationVertical", "horizAdvX", "horizOriginX", "imageRendering", "letterSpacing",
  "lightingColor", "markerEnd", "markerMid", "markerStart", "overlinePosition",
  "overlineThickness", "paintOrder", "pointerEvents", "renderingIntent", "shapeRendering",
  "stopColor", "stopOpacity", "strikethroughPosition", "strikethroughThickness",
  "strokeDasharray", "strokeDashoffset", "strokeLinecap", "strokeLinejoin", "strokeMiterlimit",
  "strokeOpacity", "strokeWidth", "textAnchor", "textDecoration", "textRendering",
  "underlinePosition", "underlineThickness", "unicodeBidi", "unicodeRange", "unitsPerEm",
  "vAlphabetic", "vHanging", "vIdeographic", "vMathematical", "vectorEffect", "vertAdvY",
  "vertOriginX", "vertOriginY", "wordSpacing", "writingMode", "xHeight"]

def namespacedNames : List (String × String) := [
  ("xlinkActuate", "xlink:actuate"), ("xlinkArcrole", "xlink:arcrole"),
  ("xlinkHref", "xlink:href"), ("xlinkRole", "xlink:role"), ("xlinkShow", "xlink:show"),
  ("xlinkTitle", "xlink:title"), ("xlinkType", "xlink:type"), ("xmlBase", "xml:base"),
  ("xmlLang", "xml:lang"), ("xmlSpace", "xml:space"), ("xmlnsXlink", "xmlns:xlink")]

def renamedProperties : List (String × String) := [
  ("className", "class"), ("htmlFor", "for"), ("acceptCharset", "accept-charset"),
  ("httpEquiv", "http-equiv")]

def hyphenated (name : String) : String :=
  String.ofList (name.toList.flatMap fun c => if c.isUpper then ['-', c.toLower] else [c])

def attributeKey (name : String) : String :=
  if hyphenatedNames.contains name then hyphenated name
  else (namespacedNames.lookup name).getD name

def markupName (name : String) : String :=
  (renamedProperties.lookup name).getD (attributeKey name)

def attributeMarkup (name : String) (value : Option String) : String :=
  match value with
  | none => " " ++ markupName name
  | some v =>
    let quote := if v.toList.contains '"' then "'" else "\""
    " " ++ markupName name ++ "=" ++ quote ++ v ++ quote

end SlotMarkup
