import DocQuery.Unicode.Age
import DocQuery.Unicode.Break

/-!
Classes of code points by name.  Case, blanks, hyphens, underscores and a leading `is` do not
matter in names.

* `PropertyName.normalize`: the form in which names are compared;
* `PropertyName.named`: the class of a single name, which is a property, a category or a script;
* `PropertyName.valued`: the class of a property with a value.
-/

namespace DocQuery.Unicode.PropertyName

/-- Why a class has no code points to give. -/
inductive Missing where
  | property
  | value
deriving DecidableEq

/-- The form of a name in which names are compared. -/
def normalize (name : String) : String :=
  let cs := name.toList
  let isMarked := (cs.take 2).map Char.toLower = ['i', 's']
  let body := (if isMarked then cs.drop 2 else cs).filter fun c =>
    c ≠ ' ' ∧ c ≠ '_' ∧ c ≠ '-' ∧ c.toNat < 0x80
  let body := body.map Char.toLower
  String.ofList (if isMarked ∧ body = ['c'] then ['i', 's', 'c'] else body)

/-- The properties of code points with the spellings of their names. -/
def properties : List (String × List String) := [
  ("ASCII_Hex_Digit", ["asciihexdigit", "ahex"]),
  ("Age", ["age"]),
  ("Alphabetic", ["alphabetic", "alpha"]),
  ("Bidi_Class", ["bidiclass", "bc"]),
  ("Bidi_Control", ["bidicontrol", "bidic"]),
  ("Bidi_Mirrored", ["bidimirrored", "bidim"]),
  ("Bidi_Mirroring_Glyph", ["bidimirroringglyph", "bmg"]),
  ("Bidi_Paired_Bracket", ["bidipairedbracket", "bpb"]),
  ("Bidi_Paired_Bracket_Type", ["bidipairedbrackettype", "bpt"]),
  ("Block", ["block", "blk"]),
  ("Canonical_Combining_Class", ["canonicalcombiningclass", "ccc"]),
  ("Case_Folding", ["casefolding", "cf"]),
  ("Case_Ignorable", ["caseignorable", "ci"]),
  ("Cased", ["cased"]),
  ("Changes_When_Casefolded", ["changeswhencasefolded", "cwcf"]),
  ("Changes_When_Casemapped", ["changeswhencasemapped", "cwcm"]),
  ("Changes_When_Lowercased", ["changeswhenlowercased", "cwl"]),
  ("Changes_When_NFKC_Casefolded", ["changeswhennfkccasefolded", "cwkcf"]),
  ("Changes_When_Titlecased", ["changeswhentitlecased", "cwt"]),
  ("Changes_When_Uppercased", ["changeswhenuppercased", "cwu"]),
  ("Composition_Exclusion", ["compositionexclusion", "ce"]),
  ("Dash", ["dash"]),
  ("Decomposition_Mapping", ["decompositionmapping", "dm"]),
  ("Decomposition_Type", ["decompositiontype", "dt"]),
  ("Default_Ignorable_Code_Point", ["defaultignorablecodepoint", "di"]),
  ("Deprecated", ["deprecated", "dep"]),
  ("Diacritic", ["diacritic", "dia"]),
  ("East_Asian_Width", ["eastasianwidth", "ea"]),
  ("Emoji", ["emoji"]),
  ("Emoji_Component", ["emojicomponent", "ecomp"]),
  ("Emoji_Modifier", ["emojimodifier", "emod"]),
  ("Emoji_Modifier_Base", ["emojimodifierbase", "ebase"]),
  ("Emoji_Presentation", ["emojipresentation", "epres"]),
  ("Equivalent_Unified_Ideograph", ["equivalentunifiedideograph", "equideo"]),
  ("Expands_On_NFC", ["expandsonnfc", "xonfc"]),
  ("Expands_On_NFD", ["expandsonnfd", "xonfd"]),
  ("Expands_On_NFKC", ["expandsonnfkc", "xonfkc"]),
  ("Expands_On_NFKD", ["expandsonnfkd", "xonfkd"]),
  ("Extended_Pictographic", ["extendedpictographic", "extpict"]),
  ("Extender", ["extender", "ext"]),
  ("FC_NFKC_Closure", ["fcnfkcclosure", "fcnfkc"]),
  ("Full_Composition_Exclusion", ["fullcompositionexclusion", "compex"]),
  ("General_Category", ["generalcategory", "gc"]),
  ("Grapheme_Base", ["graphemebase", "grbase"]),
  ("Grapheme_Cluster_Break", ["graphemeclusterbreak", "gcb"]),
  ("Grapheme_Extend", ["graphemeextend", "grext"]),
  ("Grapheme_Link", ["graphemelink", "grlink"]),
  ("Hangul_Syllable_Type", ["hangulsyllabletype", "hst"]),
  ("Hex_Digit", ["hexdigit", "hex"]),
  ("Hyphen", ["hyphen"]),
  ("IDS_Binary_Operator", ["idsbinaryoperator", "idsb"]),
  ("IDS_Trinary_Operator", ["idstrinaryoperator", "idst"]),
  ("IDS_Unary_Operator", ["idsunaryoperator", "idsu"]),
  ("ID_Compat_Math_Continue", ["idcompatmathcontinue"]),
  ("ID_Compat_Math_Start", ["idcompatmathstart"]),
  ("ID_Continue", ["idcontinue", "idc"]),
  ("ID_Start", ["idstart", "ids"]),
  ("ISO_Comment", ["isocomment", "isc"]),
  ("Ideographic", ["ideographic", "ideo"]),
  ("Indic_Conjunct_Break", ["indicconjunctbreak", "incb"]),
  ("Indic_Positional_Category", ["indicpositionalcategory", "inpc"]),
  ("Indic_Syllabic_Category", ["indicsyllabiccategory", "insc"]),
  ("Jamo_Short_Name", ["jamoshortname", "jsn"]),
  ("Join_Control", ["joincontrol", "joinc"]),
  ("Joining_Group", ["joininggroup", "jg"]),
  ("Joining_Type", ["joiningtype", "jt"]),
  ("Line_Break", ["linebreak", "lb"]),
  ("Logical_Order_Exception", ["logicalorderexception", "loe"]),
  ("Lowercase", ["lowercase", "lower"]),
  ("Lowercase_Mapping", ["lowercasemapping", "lc"]),
  ("Math", ["math"]),
  ("Modifier_Combining_Mark", ["modifiercombiningmark", "mcm"]),
  ("NFC_Quick_Check", ["nfcquickcheck", "nfcqc"]),
  ("NFD_Quick_Check", ["nfdquickcheck", "nfdqc"]),
  ("NFKC_Casefold", ["nfkccasefold", "nfkccf"]),
  ("NFKC_Quick_Check", ["nfkcquickcheck", "nfkcqc"]),
  ("NFKC_Simple_Casefold", ["nfkcsimplecasefold", "nfkcscf"]),
  ("NFKD_Quick_Check", ["nfkdquickcheck", "nfkdqc"]),
  ("Name", ["name", "na"]),
  ("Name_Alias", ["namealias"]),
  ("Noncharacter_Code_Point", ["noncharactercodepoint", "nchar"]),
  ("Numeric_Type", ["numerictype", "nt"]),
  ("Numeric_Value", ["numericvalue", "nv"]),
  ("Other_Alphabetic", ["otheralphabetic", "oalpha"]),
  ("Other_Default_Ignorable_Code_Point", ["otherdefaultignorablecodepoint", "odi"]),
  ("Other_Grapheme_Extend", ["othergraphemeextend", "ogrext"]),
  ("Other_ID_Continue", ["otheridcontinue", "oidc"]),
  ("Other_ID_Start", ["otheridstart", "oids"]),
  ("Other_Lowercase", ["otherlowercase", "olower"]),
  ("Other_Math", ["othermath", "omath"]),
  ("Other_Uppercase", ["otheruppercase", "oupper"]),
  ("Pattern_Syntax", ["patternsyntax", "patsyn"]),
  ("Pattern_White_Space", ["patternwhitespace", "patws"]),
  ("Prepended_Concatenation_Mark", ["prependedconcatenationmark", "pcm"]),
  ("Quotation_Mark", ["quotationmark", "qmark"]),
  ("Radical", ["radical"]),
  ("Regional_Indicator", ["regionalindicator", "ri"]),
  ("Script", ["script", "sc"]),
  ("Script_Extensions", ["scriptextensions", "scx"]),
  ("Sentence_Break", ["sentencebreak", "sb"]),
  ("Sentence_Terminal", ["sentenceterminal", "sterm"]),
  ("Simple_Case_Folding", ["simplecasefolding", "scf", "sfc"]),
  ("Simple_Lowercase_Mapping", ["simplelowercasemapping", "slc"]),
  ("Simple_Titlecase_Mapping", ["simpletitlecasemapping", "stc"]),
  ("Simple_Uppercase_Mapping", ["simpleuppercasemapping", "suc"]),
  ("Soft_Dotted", ["softdotted", "sd"]),
  ("Terminal_Punctuation", ["terminalpunctuation", "term"]),
  ("Titlecase_Mapping", ["titlecasemapping", "tc"]),
  ("Unicode_1_Name", ["unicode1name", "na1"]),
  ("Unified_Ideograph", ["unifiedideograph", "uideo"]),
  ("Uppercase", ["uppercase", "upper"]),
  ("Uppercase_Mapping", ["uppercasemapping", "uc"]),
  ("Variation_Selector", ["variationselector", "vs"]),
  ("Vertical_Orientation", ["verticalorientation", "vo"]),
  ("White_Space", ["whitespace", "wspace", "space"]),
  ("Word_Break", ["wordbreak", "wb"]),
  ("XID_Continue", ["xidcontinue", "xidc"]),
  ("XID_Start", ["xidstart", "xids"]),
  ("kEH_NoMirror", ["kehnomirror"]),
  ("kEH_NoRotate", ["kehnorotate"])]

/-- The general categories with the spellings of their names. -/
def categories : List (String × List String) := [
  ("C", ["c", "other"]),
  ("Cc", ["cc", "control", "cntrl"]),
  ("Cf", ["cf", "format"]),
  ("Cn", ["cn", "unassigned"]),
  ("Co", ["co", "privateuse"]),
  ("L", ["l", "letter"]),
  ("LC", ["lc", "casedletter"]),
  ("Ll", ["ll", "lowercaseletter"]),
  ("Lm", ["lm", "modifierletter"]),
  ("Lo", ["lo", "otherletter"]),
  ("Lt", ["lt", "titlecaseletter"]),
  ("Lu", ["lu", "uppercaseletter"]),
  ("M", ["m", "mark", "combiningmark"]),
  ("Mc", ["mc", "spacingmark"]),
  ("Me", ["me", "enclosingmark"]),
  ("Mn", ["mn", "nonspacingmark"]),
  ("N", ["n", "number"]),
  ("Nd", ["nd", "decimalnumber", "digit"]),
  ("Nl", ["nl", "letternumber"]),
  ("No", ["no", "othernumber"]),
  ("P", ["p", "punctuation", "punct"]),
  ("Pc", ["pc", "connectorpunctuation"]),
  ("Pd", ["pd", "dashpunctuation"]),
  ("Pe", ["pe", "closepunctuation"]),
  ("Pf", ["pf", "finalpunctuation"]),
  ("Pi", ["pi", "initialpunctuation"]),
  ("Po", ["po", "otherpunctuation"]),
  ("Ps", ["ps", "openpunctuation"]),
  ("S", ["s", "symbol"]),
  ("Sc", ["sc", "currencysymbol"]),
  ("Sk", ["sk", "modifiersymbol"]),
  ("Sm", ["sm", "mathsymbol"]),
  ("So", ["so", "othersymbol"]),
  ("Z", ["z", "separator"]),
  ("Zl", ["zl", "lineseparator"]),
  ("Zp", ["zp", "paragraphseparator"]),
  ("Zs", ["zs", "spaceseparator"])]

/-- The scripts with the spellings of their names. -/
def scripts : List (String × List String) := [
  ("Adlam", ["adlm", "adlam"]),
  ("Ahom", ["ahom"]),
  ("Anatolian_Hieroglyphs", ["hluw", "anatolianhieroglyphs"]),
  ("Arabic", ["arab", "arabic"]),
  ("Armenian", ["armn", "armenian"]),
  ("Avestan", ["avst", "avestan"]),
  ("Balinese", ["bali", "balinese"]),
  ("Bamum", ["bamu", "bamum"]),
  ("Bassa_Vah", ["bass", "bassavah"]),
  ("Batak", ["batk", "batak"]),
  ("Bengali", ["beng", "bengali"]),
  ("Bhaiksuki", ["bhks", "bhaiksuki"]),
  ("Bopomofo", ["bopo", "bopomofo"]),
  ("Brahmi", ["brah", "brahmi"]),
  ("Braille", ["brai", "braille"]),
  ("Buginese", ["bugi", "buginese"]),
  ("Buhid", ["buhd", "buhid"]),
  ("Canadian_Aboriginal", ["cans", "canadianaboriginal"]),
  ("Carian", ["cari", "carian"]),
  ("Caucasian_Albanian", ["aghb", "caucasianalbanian"]),
  ("Chakma", ["cakm", "chakma"]),
  ("Cham", ["cham"]),
  ("Cherokee", ["cher", "cherokee"]),
  ("Chorasmian", ["chrs", "chorasmian"]),
  ("Common", ["zyyy", "common"]),
  ("Coptic", ["copt", "coptic", "qaac"]),
  ("Cuneiform", ["xsux", "cuneiform"]),
  ("Cypriot", ["cprt", "cypriot"]),
  ("Cypro_Minoan", ["cpmn", "cyprominoan"]),
  ("Cyrillic", ["cyrl", "cyrillic"]),
  ("Deseret", ["dsrt", "deseret"]),
  ("Devanagari", ["deva", "devanagari"]),
  ("Dives_Akuru", ["diak", "divesakuru"]),
  ("Dogra", ["dogr", "dogra"]),
  ("Duployan", ["dupl", "duployan"]),
  ("Egyptian_Hieroglyphs", ["egyp", "egyptianhieroglyphs"]),
  ("Elbasan", ["elba", "elbasan"]),
  ("Elymaic", ["elym", "elymaic"]),
  ("Ethiopic", ["ethi", "ethiopic"]),
  ("Garay", ["gara", "garay"]),
  ("Georgian", ["geor", "georgian"]),
  ("Glagolitic", ["glag", "glagolitic"]),
  ("Gothic", ["goth", "gothic"]),
  ("Grantha", ["gran", "grantha"]),
  ("Greek", ["grek", "greek"]),
  ("Gujarati", ["gujr", "gujarati"]),
  ("Gunjala_Gondi", ["gong", "gunjalagondi"]),
  ("Gurmukhi", ["guru", "gurmukhi"]),
  ("Gurung_Khema", ["gukh", "gurungkhema"]),
  ("Han", ["hani", "han"]),
  ("Hangul", ["hang", "hangul"]),
  ("Hanifi_Rohingya", ["rohg", "hanifirohingya"]),
  ("Hanunoo", ["hano", "hanunoo"]),
  ("Hatran", ["hatr", "hatran"]),
  ("Hebrew", ["hebr", "hebrew"]),
  ("Hiragana", ["hira", "hiragana"]),
  ("Imperial_Aramaic", ["armi", "imperialaramaic"]),
  ("Inherited", ["zinh", "inherited", "qaai"]),
  ("Inscriptional_Pahlavi", ["phli", "inscriptionalpahlavi"]),
  ("Inscriptional_Parthian", ["prti", "inscriptionalparthian"]),
  ("Javanese", ["java", "javanese"]),
  ("Kaithi", ["kthi", "kaithi"]),
  ("Kannada", ["knda", "kannada"]),
  ("Katakana", ["kana", "katakana"]),
  ("Kawi", ["kawi"]),
  ("Kayah_Li", ["kali", "kayahli"]),
  ("Kharoshthi", ["khar", "kharoshthi"]),
  ("Khitan_Small_Script", ["kits", "khitansmallscript"]),
  ("Khmer", ["khmr", "khmer"]),
  ("Khojki", ["khoj", "khojki"]),
  ("Khudawadi", ["sind", "khudawadi"]),
  ("Kirat_Rai", ["krai", "kiratrai"]),
  ("Lao", ["laoo", "lao"]),
  ("Latin", ["latn", "latin"]),
  ("Lepcha", ["lepc", "lepcha"]),
  ("Limbu", ["limb", "limbu"]),
  ("Linear_A", ["lina", "lineara"]),
  ("Linear_B", ["linb", "linearb"]),
  ("Lisu", ["lisu"]),
  ("Lycian", ["lyci", "lycian"]),
  ("Lydian", ["lydi", "lydian"]),
  ("Mahajani", ["mahj", "mahajani"]),
  ("Makasar", ["maka", "makasar"]),
  ("Malayalam", ["mlym", "malayalam"]),
  ("Mandaic", ["mand", "mandaic"]),
  ("Manichaean", ["mani", "manichaean"]),
  ("Marchen", ["marc", "marchen"]),
  ("Masaram_Gondi", ["gonm", "masaramgondi"]),
  ("Medefaidrin", ["medf", "medefaidrin"]),
  ("Meetei_Mayek", ["mtei", "meeteimayek"]),
  ("Mende_Kikakui", ["mend", "mendekikakui"]),
  ("Meroitic_Cursive", ["merc", "meroiticcursive"]),
  ("Meroitic_Hieroglyphs", ["mero", "meroitichieroglyphs"]),
  ("Miao", ["plrd", "miao"]),
  ("Modi", ["modi"]),
  ("Mongolian", ["mong", "mongolian"]),
  ("Mro", ["mroo", "mro"]),
  ("Multani", ["mult", "multani"]),
  ("Myanmar", ["mymr", "myanmar"]),
  ("Nabataean", ["nbat", "nabataean"]),
  ("Nag_Mundari", ["nagm", "nagmundari"]),
  ("Nandinagari", ["nand", "nandinagari"]),
  ("New_Tai_Lue", ["talu", "newtailue"]),
  ("Newa", ["newa"]),
  ("Nko", ["nkoo", "nko"]),
  ("Nushu", ["nshu", "nushu"]),
  ("Nyiakeng_Puachue_Hmong", ["hmnp", "nyiakengpuachuehmong"]),
  ("Ogham", ["ogam", "ogham"]),
  ("Ol_Chiki", ["olck", "olchiki"]),
  ("Ol_Onal", ["onao", "olonal"]),
  ("Old_Hungarian", ["hung", "oldhungarian"]),
  ("Old_Italic", ["ital", "olditalic"]),
  ("Old_North_Arabian", ["narb", "oldnortharabian"]),
  ("Old_Permic", ["perm", "oldpermic"]),
  ("Old_Persian", ["xpeo", "oldpersian"]),
  ("Old_Sogdian", ["sogo", "oldsogdian"]),
  ("Old_South_Arabian", ["sarb", "oldsoutharabian"]),
  ("Old_Turkic", ["orkh", "oldturkic"]),
  ("Old_Uyghur", ["ougr", "olduyghur"]),
  ("Oriya", ["orya", "oriya"]),
  ("Osage", ["osge", "osage"]),
  ("Osmanya", ["osma", "osmanya"]),
  ("Pahawh_Hmong", ["hmng", "pahawhhmong"]),
  ("Palmyrene", ["palm", "palmyrene"]),
  ("Pau_Cin_Hau", ["pauc", "paucinhau"]),
  ("Phags_Pa", ["phag", "phagspa"]),
  ("Phoenician", ["phnx", "phoenician"]),
  ("Psalter_Pahlavi", ["phlp", "psalterpahlavi"]),
  ("Rejang", ["rjng", "rejang"]),
  ("Runic", ["runr", "runic"]),
  ("Samaritan", ["samr", "samaritan"]),
  ("Saurashtra", ["saur", "saurashtra"]),
  ("Sharada", ["shrd", "sharada"]),
  ("Shavian", ["shaw", "shavian"]),
  ("Siddham", ["sidd", "siddham"]),
  ("SignWriting", ["sgnw", "signwriting"]),
  ("Sinhala", ["sinh", "sinhala"]),
  ("Sogdian", ["sogd", "sogdian"]),
  ("Sora_Sompeng", ["sora", "sorasompeng"]),
  ("Soyombo", ["soyo", "soyombo"]),
  ("Sundanese", ["sund", "sundanese"]),
  ("Sunuwar", ["sunu", "sunuwar"]),
  ("Syloti_Nagri", ["sylo", "sylotinagri"]),
  ("Syriac", ["syrc", "syriac"]),
  ("Tagalog", ["tglg", "tagalog"]),
  ("Tagbanwa", ["tagb", "tagbanwa"]),
  ("Tai_Le", ["tale", "taile"]),
  ("Tai_Tham", ["lana", "taitham"]),
  ("Tai_Viet", ["tavt", "taiviet"]),
  ("Takri", ["takr", "takri"]),
  ("Tamil", ["taml", "tamil"]),
  ("Tangsa", ["tnsa", "tangsa"]),
  ("Tangut", ["tang", "tangut"]),
  ("Telugu", ["telu", "telugu"]),
  ("Thaana", ["thaa", "thaana"]),
  ("Thai", ["thai"]),
  ("Tibetan", ["tibt", "tibetan"]),
  ("Tifinagh", ["tfng", "tifinagh"]),
  ("Tirhuta", ["tirh", "tirhuta"]),
  ("Todhri", ["todr", "todhri"]),
  ("Toto", ["toto"]),
  ("Tulu_Tigalari", ["tutg", "tulutigalari"]),
  ("Ugaritic", ["ugar", "ugaritic"]),
  ("Unknown", ["zzzz", "unknown"]),
  ("Vai", ["vaii", "vai"]),
  ("Vithkuqi", ["vith", "vithkuqi"]),
  ("Wancho", ["wcho", "wancho"]),
  ("Warang_Citi", ["wara", "warangciti"]),
  ("Yezidi", ["yezi", "yezidi"]),
  ("Yi", ["yiii", "yi"]),
  ("Zanabazar_Square", ["zanb", "zanabazarsquare"])]

/-- The entry of a table under which a normalized name is a spelling. -/
def find? (table : List (String × List String)) (name : String) : Option String :=
  (table.find? fun (_, spellings) => spellings.contains name).map (·.1)

/-- The class of a category, where three more names stand for larger classes. -/
def category? (name : String) : Option (Except Missing CodePointSet) :=
  match name with
  | "any" => some (.ok (.range 0 CodePointSet.last))
  | "assigned" => some (.ok Category.assigned)
  | "ascii" => some (.ok (.range 0 0x7F))
  | "cs" | "surrogate" => some (.error .value)
  | _ =>
    (find? categories name).map fun short =>
      match Category.set? short with
      | some s => .ok s
      | none => .error .value

/-- The class of a script. -/
def script? (name : String) : Option (Except Missing CodePointSet) :=
  (find? scripts name).map fun long =>
    match Script.set? long with
    | some s => .ok s
    | none => .error .value

/-- The names that a category has in common with a property that has no class. -/
def categoryFirst : List String := ["cf", "sc", "lc"]

/-- The class of a single name. -/
def named (name : String) : Except Missing CodePointSet :=
  let name := normalize name
  let property := if categoryFirst.contains name then none else find? properties name
  match property with
  | some long =>
    match Property.set? long with
    | some s => .ok s
    | none => .error .property
  | none => ((category? name).orElse fun _ => script? name).getD (.error .property)

/-- The code points that are assigned in the version with a name. -/
def age? (name : String) : Option CodePointSet :=
  let version := Age.table.find? fun (version, _) =>
    version = name ∨ "v" ++ String.ofList (version.toList.filter (· ≠ '.')) = name
  version.bind fun (version, _) => Age.set? version

/-- The class of a property with a value. -/
def valued (property value : String) : Except Missing CodePointSet :=
  let value := normalize value
  let given (class? : Option CodePointSet) : Except Missing CodePointSet :=
    (class?.map .ok).getD (.error .value)
  match find? properties (normalize property) with
  | none => .error .property
  | some "General_Category" => (category? value).getD (.error .value)
  | some "Script" => (script? value).getD (.error .value)
  | some "Script_Extensions" => given ((find? scripts value).bind Script.extensions?)
  | some "Age" => given (age? value)
  | some "Grapheme_Cluster_Break" => given (Break.cluster? value)
  | some "Word_Break" => given (Break.word? value)
  | some "Sentence_Break" => given (Break.sentence? value)
  | some _ => .error .value

end DocQuery.Unicode.PropertyName
