import MonitorWire.Regex.Ast
import MonitorWire.Unicode.Category
import MonitorWire.Unicode.Script
import MonitorWire.Unicode.Property
import MonitorWire.Unicode.Age
import MonitorWire.Unicode.Segment

namespace MonitorWire

namespace Regex

inductive PropertyError where
  | notFound
  | valueNotFound
  deriving DecidableEq, Repr

def PropertyError.message : PropertyError → String
  | .notFound => "Unicode property not found"
  | .valueNotFound => "Unicode property value not found"

namespace Property

def normalize (s : String) : String :=
  let cs := s.toList
  let (isPrefix, body) := match cs with
    | a :: b :: rest =>
      if (a == 'i' || a == 'I') && (b == 's' || b == 'S') then (true, rest) else (false, cs)
    | _ => (false, cs)
  let kept := body.filterMap fun c =>
    if c == ' ' || c == '_' || c == '-' || c.toNat > 0x7F then none else some c.toLower
  if isPrefix && kept == ['c'] then "isc" else String.ofList kept

def properties : List (String × List String) := [
  ("kAccountingNumeric", ["cjkAccountingNumeric"]), ("kOtherNumeric", ["cjkOtherNumeric"]),
  ("kPrimaryNumeric", ["cjkPrimaryNumeric"]), ("Numeric_Value", ["nv"]),
  ("Bidi_Mirroring_Glyph", ["bmg"]), ("Bidi_Paired_Bracket", ["bpb"]), ("Case_Folding", ["cf"]),
  ("kCompatibilityVariant", ["cjkCompatibilityVariant"]), ("Decomposition_Mapping", ["dm"]),
  ("Equivalent_Unified_Ideograph", ["EqUIdeo"]), ("FC_NFKC_Closure", ["FC_NFKC"]),
  ("Lowercase_Mapping", ["lc"]), ("NFKC_Casefold", ["NFKC_CF"]),
  ("NFKC_Simple_Casefold", ["NFKC_SCF"]), ("Simple_Case_Folding", ["scf", "sfc"]),
  ("Simple_Lowercase_Mapping", ["slc"]), ("Simple_Titlecase_Mapping", ["stc"]),
  ("Simple_Uppercase_Mapping", ["suc"]), ("Titlecase_Mapping", ["tc"]),
  ("Uppercase_Mapping", ["uc"]), ("kIICore", ["cjkIICore"]),
  ("kIRG_GSource", ["cjkIRG_GSource"]), ("kIRG_HSource", ["cjkIRG_HSource"]),
  ("kIRG_JSource", ["cjkIRG_JSource"]), ("kIRG_KPSource", ["cjkIRG_KPSource"]),
  ("kIRG_KSource", ["cjkIRG_KSource"]), ("kIRG_MSource", ["cjkIRG_MSource"]),
  ("kIRG_SSource", ["cjkIRG_SSource"]), ("kIRG_TSource", ["cjkIRG_TSource"]),
  ("kIRG_UKSource", ["cjkIRG_UKSource"]), ("kIRG_USource", ["cjkIRG_USource"]),
  ("kIRG_VSource", ["cjkIRG_VSource"]),
  ("kRSUnicode", ["cjkRSUnicode", "Unicode_Radical_Stroke", "URS"]), ("ISO_Comment", ["isc"]),
  ("Jamo_Short_Name", ["JSN"]), ("kEH_Cat", []), ("kEH_Desc", []), ("kEH_HG", []),
  ("kEH_IFAO", []), ("kEH_JSesh", []), ("Name", ["na"]), ("Unicode_1_Name", ["na1"]),
  ("Name_Alias", []), ("Script_Extensions", ["scx"]), ("Age", ["age"]), ("Block", ["blk"]),
  ("Script", ["sc"]), ("Bidi_Class", ["bc"]), ("Bidi_Paired_Bracket_Type", ["bpt"]),
  ("Canonical_Combining_Class", ["ccc"]), ("Decomposition_Type", ["dt"]),
  ("East_Asian_Width", ["ea"]), ("General_Category", ["gc"]),
  ("Grapheme_Cluster_Break", ["GCB"]), ("Hangul_Syllable_Type", ["hst"]),
  ("Indic_Conjunct_Break", ["InCB"]), ("Indic_Positional_Category", ["InPC"]),
  ("Indic_Syllabic_Category", ["InSC"]), ("Joining_Group", ["jg"]), ("Joining_Type", ["jt"]),
  ("Line_Break", ["lb"]), ("NFC_Quick_Check", ["NFC_QC"]), ("NFD_Quick_Check", ["NFD_QC"]),
  ("NFKC_Quick_Check", ["NFKC_QC"]), ("NFKD_Quick_Check", ["NFKD_QC"]),
  ("Numeric_Type", ["nt"]), ("Sentence_Break", ["SB"]), ("Vertical_Orientation", ["vo"]),
  ("Word_Break", ["WB"]), ("ASCII_Hex_Digit", ["AHex"]), ("Alphabetic", ["Alpha"]),
  ("Bidi_Control", ["Bidi_C"]), ("Bidi_Mirrored", ["Bidi_M"]), ("Cased", []),
  ("Composition_Exclusion", ["CE"]), ("Case_Ignorable", ["CI"]),
  ("Full_Composition_Exclusion", ["Comp_Ex"]), ("Changes_When_Casefolded", ["CWCF"]),
  ("Changes_When_Casemapped", ["CWCM"]), ("Changes_When_NFKC_Casefolded", ["CWKCF"]),
  ("Changes_When_Lowercased", ["CWL"]), ("Changes_When_Titlecased", ["CWT"]),
  ("Changes_When_Uppercased", ["CWU"]), ("Dash", []), ("Deprecated", ["Dep"]),
  ("Default_Ignorable_Code_Point", ["DI"]), ("Diacritic", ["Dia"]),
  ("Emoji_Modifier_Base", ["EBase"]), ("Emoji_Component", ["EComp"]),
  ("Emoji_Modifier", ["EMod"]), ("Emoji", []), ("Emoji_Presentation", ["EPres"]),
  ("Extender", ["Ext"]), ("Extended_Pictographic", ["ExtPict"]),
  ("Grapheme_Base", ["Gr_Base"]), ("Grapheme_Extend", ["Gr_Ext"]),
  ("Grapheme_Link", ["Gr_Link"]), ("Hex_Digit", ["Hex"]), ("Hyphen", []),
  ("ID_Compat_Math_Continue", []), ("ID_Compat_Math_Start", []), ("ID_Continue", ["IDC"]),
  ("Ideographic", ["Ideo"]), ("ID_Start", ["IDS"]), ("IDS_Binary_Operator", ["IDSB"]),
  ("IDS_Trinary_Operator", ["IDST"]), ("IDS_Unary_Operator", ["IDSU"]),
  ("Join_Control", ["Join_C"]), ("kEH_NoMirror", []), ("kEH_NoRotate", []),
  ("Logical_Order_Exception", ["LOE"]), ("Lowercase", ["Lower"]), ("Math", []),
  ("Modifier_Combining_Mark", ["MCM"]), ("Noncharacter_Code_Point", ["NChar"]),
  ("Other_Alphabetic", ["OAlpha"]), ("Other_Default_Ignorable_Code_Point", ["ODI"]),
  ("Other_Grapheme_Extend", ["OGr_Ext"]), ("Other_ID_Continue", ["OIDC"]),
  ("Other_ID_Start", ["OIDS"]), ("Other_Lowercase", ["OLower"]), ("Other_Math", ["OMath"]),
  ("Other_Uppercase", ["OUpper"]), ("Pattern_Syntax", ["Pat_Syn"]),
  ("Pattern_White_Space", ["Pat_WS"]), ("Prepended_Concatenation_Mark", ["PCM"]),
  ("Quotation_Mark", ["QMark"]), ("Radical", []), ("Regional_Indicator", ["RI"]),
  ("Soft_Dotted", ["SD"]), ("Sentence_Terminal", ["STerm"]),
  ("Terminal_Punctuation", ["Term"]), ("Unified_Ideograph", ["UIdeo"]),
  ("Uppercase", ["Upper"]), ("Variation_Selector", ["VS"]),
  ("White_Space", ["WSpace", "space"]), ("XID_Continue", ["XIDC"]), ("XID_Start", ["XIDS"]),
  ("Expands_On_NFC", ["XO_NFC"]), ("Expands_On_NFD", ["XO_NFD"]),
  ("Expands_On_NFKC", ["XO_NFKC"]), ("Expands_On_NFKD", ["XO_NFKD"])]

def lookupName {α : Type} (entries : List (List String × α)) (key : String) : Option α :=
  (entries.find? fun (names, _) => names.any (normalize · == key)).map (·.2)

def canonicalProperty (key : String) : Option String :=
  lookupName (properties.map fun (long, others) => (long :: others, long)) key

def categoryValues : List (List String × List Unicode.Category) :=
  (Unicode.Category.all.filter (· != .surrogate)).map (fun c =>
    let extra := match c with
      | .control => ["Cntrl"]
      | .decimalNumber => ["Digit"]
      | _ => []
    ([c.code, c.name] ++ extra, [c])) ++ [
    (["L", "Letter"], Unicode.Category.all.filter (·.isLetter)),
    (["LC", "Cased_Letter"], [.uppercaseLetter, .lowercaseLetter, .titlecaseLetter]),
    (["M", "Mark", "Combining_Mark"], Unicode.Category.all.filter (·.isMark)),
    (["N", "Number"], Unicode.Category.all.filter (·.isNumber)),
    (["P", "Punctuation", "Punct"], [.connectorPunctuation, .dashPunctuation,
      .openPunctuation, .closePunctuation, .initialPunctuation, .finalPunctuation,
      .otherPunctuation]),
    (["S", "Symbol"], [.mathSymbol, .currencySymbol, .modifierSymbol, .otherSymbol]),
    (["Z", "Separator"], [.spaceSeparator, .lineSeparator, .paragraphSeparator]),
    (["C", "Other"], [.control, .format, .privateUse, .unassigned])]

def categorySet? (key : String) : Option (Except PropertyError CharSet) :=
  match key with
  | "any" => some (.ok CharSet.full)
  | "assigned" => some (.ok (CharSet.ofRanges (Unicode.categoryRanges (· != .unassigned))))
  | "ascii" => some (.ok (CharSet.normalize [(0, 0x7F)]))
  | _ =>
    if normalize "Cs" == key || normalize "Surrogate" == key then some (.error .valueNotFound)
    else (lookupName categoryValues key).map fun cats =>
      .ok (CharSet.ofRanges (Unicode.categoryRanges (cats.contains ·)))

def scriptValues : List (List String × String) :=
  Unicode.scripts.map (fun (code, long) =>
    (code :: long :: (Unicode.scriptAliases.filter (·.2 == long)).map (·.1), code)) ++
  [(["Hrkt", "Katakana_Or_Hiragana"], "Hrkt")]

def scriptSet? (extensions : Bool) (key : String) : Option (Except PropertyError CharSet) :=
  (lookupName scriptValues key).map fun code =>
    let rs := if extensions then Unicode.extensionSet code else Unicode.scriptSet code
    if rs.isEmpty then .error .valueNotFound else .ok (CharSet.ofRanges rs)

def ageSet? (key : String) : Option (Except PropertyError CharSet) :=
  let versions := Unicode.versions.map fun v =>
    ([v, "V" ++ v.replace "." "_"], some v)
  match lookupName (versions ++ [(["NA", "Unassigned"], none)]) key with
  | some (some v) => some (.ok (CharSet.ofRanges (Unicode.assignedBy v)))
  | some none => some (.error .valueNotFound)
  | none => none

/-- The characters of a value of a segmentation property; `none` for a name that is no value
of it. The default value `Other` has no class of its own. -/
def breakSet? (p : Unicode.BreakProperty) (key : String) : Option (Except PropertyError CharSet) :=
  (lookupName (p.values.map fun (short, long) => ([short, long], short)) key).map fun short =>
    let rs := if short == "XX" then #[] else p.ranges short
    if rs.isEmpty then .error .valueNotFound else .ok (CharSet.ofRanges rs)

def binarySet (long : String) : Except PropertyError CharSet :=
  match Unicode.propertyRanges? long with
  | some rs => .ok (CharSet.ofRanges rs)
  | none => .error .notFound

def named (name : String) : Except PropertyError CharSet :=
  let key := normalize name
  let asProperty := if key == "cf" || key == "sc" || key == "lc" then none
    else canonicalProperty key
  match asProperty with
  | some long => binarySet long
  | none =>
    match categorySet? key with
    | some r => r
    | none =>
      match scriptSet? false key with
      | some r => r
      | none => .error .notFound

def byValue (name value : String) : Except PropertyError CharSet :=
  let valueKey := normalize value
  let found := fun (r : Option (Except PropertyError CharSet)) => r.getD (.error .valueNotFound)
  match canonicalProperty (normalize name) with
  | some "General_Category" => found (categorySet? valueKey)
  | some "Script" => found (scriptSet? false valueKey)
  | some "Script_Extensions" => found (scriptSet? true valueKey)
  | some "Age" => found (ageSet? valueKey)
  | some long =>
    match Unicode.breakProperties.find? (·.name == long) with
    | some p => found (breakSet? p valueKey)
    | none => .error .valueNotFound
  | none => .error .notFound

end Property

def UnicodeQuery.resolve : UnicodeQuery → Except PropertyError CharSet
  | .oneLetter c => Property.named (String.singleton c)
  | .named n => Property.named n
  | .byValue n v _ => Property.byValue n v

end Regex

end MonitorWire
