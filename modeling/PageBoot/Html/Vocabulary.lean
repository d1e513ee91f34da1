import PageBoot.Html.Forest

/-!
Names that markup gives a meaning to: which elements are special, which close others, and how
the names of drawings and formulas are spelled.
-/

namespace PageBoot.Html

/-- A list of names from one line of words. -/
def names (s : String) : List Text := Text.splitOn 32 s

/-- Whether a tag is one of the given names. -/
def among (tag : Text) (ns : List Text) : Bool := ns.contains tag

/-- Elements without contents, which are written without an end tag. -/
def voidTags : List Text :=
  names "area base br col embed hr img input keygen link meta param source track wbr"

/-- Elements whose texts are written as they are. -/
def literalTags : List Text :=
  names "iframe noembed noframes noscript plaintext script style xmp"

def headTags : List Text := names "base basefont bgsound link meta"

def headBlockTags : List Text := names "noframes script style template title"

def headingTags : List Text := names "h1 h2 h3 h4 h5 h6"

def formattingTags : List Text :=
  names "b big code em font i s small strike strong tt u"

/-- Blocks whose start ends an open paragraph. -/
def blockTags : List Text :=
  names "address article aside blockquote center details dialog dir div dl fieldset figcaption figure footer header hgroup main menu nav ol section summary ul"

/-- Elements that end where their parent ends. -/
def impliedEndTags : List Text := names "dd dt li optgroup option p rb rp rt rtc"

/-- Parents of table contents. -/
def tableParts : List Text := names "table tbody tfoot thead tr"

def specialTags : List Text :=
  names "address applet area article aside base basefont bgsound blockquote body br button caption center col colgroup dd details dir div dl dt embed fieldset figcaption figure footer form frame frameset h1 h2 h3 h4 h5 h6 head header hgroup hr html iframe img input keygen li link listing main marquee menu meta nav noembed noframes noscript object ol p param plaintext pre script section select source style summary table tbody td template textarea tfoot th thead title tr track ul wbr xmp"

def mathSpecialTags : List Text := names "mi mo mn ms mtext annotation-xml"

def mathTextTags : List Text := names "mi mo mn ms mtext"

def svgSpecialTags : List Text := names "foreignObject desc title"

def isSpecial (space : Space) (tag : Text) : Bool :=
  match space with
  | .html => among tag specialTags
  | .math => among tag mathSpecialTags
  | .svg => among tag svgSpecialTags

/-- Tags that end drawings and formulas around them. -/
def breakoutTags : List Text :=
  names "b big blockquote body br center code dd div dl dt em embed h1 h2 h3 h4 h5 h6 head hr i img li listing menu meta nobr ol p pre ruby s small span strong strike sub sup table tt u ul var"

/-- Names of drawings that have capitals. -/
def svgTags : List Text :=
  names "altGlyph altGlyphDef altGlyphItem animateColor animateMotion animateTransform clipPath feBlend feColorMatrix feComponentTransfer feComposite feConvolveMatrix feDiffuseLighting feDisplacementMap feDistantLight feFlood feFuncA feFuncB feFuncG feFuncR feGaussianBlur feImage feMerge feMergeNode feMorphology feOffset fePointLight feSpecularLighting feSpotLight feTile feTurbulence foreignObject glyphRef linearGradient radialGradient textPath"

/-- Keys of drawings that have capitals. -/
def svgKeys : List Text :=
  names "attributeName attributeType baseFrequency baseProfile calcMode clipPathUnits diffuseConstant edgeMode filterUnits glyphRef gradientTransform gradientUnits kernelMatrix kernelUnitLength keyPoints keySplines keyTimes lengthAdjust limitingConeAngle markerHeight markerUnits markerWidth maskContentUnits maskUnits numOctaves pathLength patternContentUnits patternTransform patternUnits pointsAtX pointsAtY pointsAtZ preserveAlpha preserveAspectRatio primitiveUnits refX refY repeatCount repeatDur requiredExtensions requiredFeatures specularConstant specularExponent spreadMethod startOffset stdDeviation stitchTiles surfaceScale systemLanguage tableValues targetX targetY textLength viewBox viewTarget xChannelSelector yChannelSelector zoomAndPan"

def mathKeys : List Text := names "definitionURL"

/-- Keys with a namespace of their own. -/
def spacedKeys : List Text :=
  names "xlink:actuate xlink:arcrole xlink:href xlink:role xlink:show xlink:title xlink:type xml:base xml:lang xml:space xmlns:xlink"

/-- The spelling of a name in a list that has it with other capitals. -/
def respell (ns : List Text) (name : Text) : Text :=
  (ns.find? fun n => n.toLowerAscii == name).getD name

/-- Keys as drawings and formulas spell them. -/
def foreignAttrs (space : Space) (attrs : List Attribute) : List Attribute :=
  attrs.map fun a =>
    let key := respell (match space with | .svg => svgKeys | .math => mathKeys | .html => []) a.key
    if spacedKeys.contains key then
      let (space, rest) := key.cut 58
      { a with key := rest.getD [], space }
    else { a with key }

end PageBoot.Html
