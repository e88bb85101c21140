import ComponentQuery.Unicode.RangeTable

/-!
# Scripts

The scripts of the Unicode standard: for each its four letter code, its name, the characters that
belong to it alone, and those that are used with it, which for most scripts are the same.
-/

namespace ComponentQuery.Unicode

/-- A script with the written tables of its characters.  `extended` is none if the characters used
with the script are just its own. -/
structure Script where
  code : String
  name : String
  own : String
  extended : Option String
deriving Repr

namespace Script

/-- The characters that belong to the script. -/
def table (s : Script) : RangeTable := RangeTable.decode s.own

/-- The characters that are used with the script. -/
def extendedTable (s : Script) : RangeTable := RangeTable.decode (s.extended.getD s.own)

end Script

/-- Two further codes by which scripts are known, each with the usual one. -/
def scriptSynonyms : List (String × String) := [("qaac", "copt"), ("qaai", "zinh")]

/-- All scripts, in the order of their codes. -/
def scripts : List Script :=
  [
    ⟨"adlm", "adlam",
      "hdeUcXEJEB",
      some "ciHAbGAjwOAfhHAglrIcXEJEB"⟩,
    ⟨"aghb", "caucasianalbanian",
      "duxSbZLA",
      some "bdSAbSAbSAdtqNbZLA"⟩,
    ⟨"ahom", "ahom",
      "ebrCbACOEW",
      none⟩,
    ⟨"arab", "arabic",
      "chCEBFBNBCBbFBJLZBeDBbHdCbVjGbEBBFcWBbCdntWeKQnYCdBCcBHAbGPeIEBfEfvNbEcPCcDDdglSDBbABBBACA" ++
      "BJBDBABAGAEABABABCBBBACABABABABABBBACDBGBDBDBABJBQFCBEBQcAB",
      some ("chCEBiGBbHdCbVjGbEBBFcWBbCivNAfhHAczrAeKQrCCcBHAbGPeIEBfEbmHbBeiEbEcPCcDDdglSDBbABBBACABJB" ++
      "DBABAGAEABABABCBBBACABABABABABBBACDBGBDBDBABJBQFCBEBQcAB")⟩,
    ⟨"armi", "imperialaramaic",
      "dwbWVBI",
      none⟩,
    ⟨"armn", "armenian",
      "bzDbLCbXCCdozJE",
      some "bdWAvGbLCbXCCdozJE"⟩,
    ⟨"avst", "avestan",
      "dxcYcBDG",
      some "hBArfSBdfqCcBDG"⟩,
    ⟨"bali", "balinese",
      "kfWcYBbX",
      none⟩,
    ⟨"bamu", "bamum",
      "clcQdJcvcQvW",
      none⟩,
    ⟨"bass", "bassavah",
      "fhkIbDCF",
      none⟩,
    ⟨"batk", "batak",
      "knGbZID",
      none⟩,
    ⟨"beng", "bengali",
      "dpODBHCBCVBGBADDCICBCDIAEBBECY",
      some "baYAcmUBRBbADBHCBCVBGBADDCICBCDIAEBBECYhdHABACBBAIAIACAEACCcbaFA"⟩,
    ⟨"bhks", "bhaiksuki",
      "edoIIBbSBNKbC",
      none⟩,
    ⟨"bopo", "bopomofo",
      "bcSBrlXbQeIbF",
      some "bbJABCNAQBrbXCEJBMKDCAGAhNAJbQeIbFczlTBkWE"⟩,
    ⟨"brah", "brahmi",
      "dzaEcZEbJJA",
      none⟩,
    ⟨"brai", "braille",
      "pdWjV",
      none⟩,
    ⟨"bugi", "buginese",
      "jwAbBCB",
      some "jwAbBCBcckTA"⟩,
    ⟨"buhd", "buhid",
      "iuYT",
      some "iuNBJT"⟩,
    ⟨"cakm", "chakma",
      "dzkAcABR",
      some "dtMJckEJdtfQcABR"⟩,
    ⟨"cans", "canadianaboriginal",
      "hoYyPvOcRdtpQP",
      none⟩,
    ⟨"cari", "carian",
      "dtyMbW",
      some "hBAlzMACAfgDAdclQbW"⟩,
    ⟨"cham", "cham",
      "cmjWcCJNCJCD",
      none⟩,
    ⟨"cher", "cherokee",
      "hlGdHCFcfjEdB",
      some "bdOCBAGBWBLBgfUdHCFcfjEdB"⟩,
    ⟨"chrs", "chorasmian",
      "dyxCbB",
      none⟩,
    ⟨"copt", "coptic",
      "bmGNpjKeLFG",
      some "hBAwMADBBAeEBeENpjKeLFGkTAdcpCbB"⟩,
    ⟨"cpmn", "cyprominoan",
      "ekyYdU",
      some "dtiMBrqKdU"⟩,
    ⟨"cprt", "cypriot",
      "dvzKFCABbRBBDACA",
      some "dtiMCEbSDIcoMFCABbRBBDACA"⟩,
    ⟨"cyrl", "cyrillic",
      "bnKfCCgMivOKgEAcYAgfNbFbtoAdRbheCBdhpGcJbHA",
      some "baYAcPCBABABACAFAjElRivOKgEAcYAeXAgaPbFcPAbtlKdRbheCBdhpGcJbHA"⟩,
    ⟨"deva", "devanagari",
      "dkQdCEOCZcijGbFbreMJ",
      some "baYAcjRdECbQhiEbMBBbnAAbzfRJgKbFbreMJ"⟩,
    ⟨"diak", "divesakuru",
      "eckUGCACHBBBbDBBCLJJ",
      none⟩,
    ⟨"dogr", "dogra",
      "ecaYcH",
      some "doMLcidCJbqiOcH"⟩,
    ⟨"dsrt", "deseret",
      "dumAdB",
      none⟩,
    ⟨"dupl", "duployan",
      "gmdSeCFMDIHJCD",
      some "hBAwTBBAYBqiHAfuqLeCFMDIHJCH"⟩,
    ⟨"egyp", "egyptianhieroglyphs",
      "eldGbqRKfxQ",
      none⟩,
    ⟨"elba", "elbasan",
      "duvWbN",
      some "hBAwRAdtsCbN"⟩,
    ⟨"elym", "elymaic",
      "dyyYW",
      none⟩,
    ⟨"ethi", "ethiopic",
      "gvGcUBDCGBABDCbOBDCbGBDCGBABDCOBcEBDCcOCbFDZjvAWJGBGBGBGBGBGBGBGbvkCFCFCFJGBGepyFGBDBBBO",
      some ("beCAfrDcUBDCGBABDCbOBDCbGBDCGBABDCOBcEBDCcOCbFDZjvAWJGBGBGBGBGBGBGBGbvkCFCFCFJGBGepyFGBDBB" ++
      "BO")⟩,
    ⟨"gara", "garay",
      "dxzCbLDbCIB",
      some "chOAOADAdvqUbLDbCIB"⟩,
    ⟨"geor", "georgian",
      "ghSbLBAFACbQBDejWbQCCgeAbLBAFA",
      some "hBAbvLAefEbLBAFACbVejWbQCCbjMAeuNbLBAFAjZA"⟩,
    ⟨"glag", "glagolitic",
      "qrGdRgizGGBQCGBBBE",
      some "hBAwPABAoSACAjXAeiRAfvIAekRdRsPAbtnFAeotKGBQCGBBBE"⟩,
    ⟨"gong", "gunjalagondi",
      "eebWFBBBbKBBBFHJ",
      some "hBAdhKBeanIFBBBbKBBBFHJ"⟩,
    ⟨"gonm", "masaramgondi",
      "edyEGBBBbRDABBBIIJ",
      some "doMBeajQGBBBbRDABBBIIJ"⟩,
    ⟨"goth", "gothic",
      "dueAbA",
      some "hBAwQBCAbOAdsyObA"⟩,
    ⟨"gran", "grantha",
      "eadSDBHCBCVBGBBBECICBCCCAGAFGCGDE",
      some "dnTBRByQNgkAABBbECDBbnAAdnrJDBHCBCVBGBBBEBJCBCCCAGAFGCGDEerRBBA"⟩,
    ⟨"grek", "greek",
      "bhWDBCCDBAEABABCBABTBcKOPjnQEbYEEEdGAmIVCFCbLCFCHBABABABbECcABOBNCFBSCCBIlJAcajEAbgnIdARAd" ++
      "axRcR",
      some ("hBAwMBCABABAKAbUACAbQHCDBAEABABCBABTBcKOPjnQEbYEEEdGCmGVCFCbLCFCHBABABABbECcABOBNCFBSCCBId" ++
      "QAhSAcajEAbgnIdARAdaxRcR")⟩,
    ⟨"gujr", "gujarati",
      "dzLCBIBCBVBGBBBECJBCBCCAPDCLHG",
      some "dnTBRBkXCBIBCBVBGBBBECJBCBCCAPDCLHGchnSJ"⟩,
    ⟨"gukh", "gurungkhema",
      "fdrScF",
      some "doNAfadEcF"⟩,
    ⟨"guru", "gurmukhi",
      "duNCBFEBCVBGBBBBBBCABEEBCCDAHDBAHQ",
      some "dnTBRBfZCBFEBCVBGBBBBBBCABEEBCCDAHDBAHQchsZJ"⟩,
    ⟨"hang", "hangul",
      "glKjVllEBjXdPeJbEcNbEbtaNbCyTqnRMWEbWpaIbEDFCFCFCC",
      some "glKjVljLCEJBMOCGAhNAcBdPeJbEcNbEbtaNbCyTqnRMWEbWomZBkWEcGbEDFCFCFCC"⟩,
    ⟨"hani", "han",
      "rpWZBdKMiFbVABAZIODblCjtNcMbfbJbhsIoBCeBbsiIBMBccoKclfBbGgdTGiNCinPOlbKPxXdqWuVcfYhhYFgfF",
      some ("hBAriUZBdKMiFbAPBCBMBMBMCAGIhFAfSPbGbLJAbWbNcEbWPLbZAdKYKEdSbEBjtNcMbfbJcqYHbfbCoBCeBbhRBk" ++
      "WEbqpOBMBblrARlrYBfeSclfBbGgdTGiNCinPOlbKPxXdqWuVcfYhhYFgfF")⟩,
    ⟨"hano", "hanunoo",
      "itSU",
      some "itSW"⟩,
    ⟨"hatr", "hatran",
      "dwiASBBFE",
      none⟩,
    ⟨"hebr", "hebrew",
      "ccVcCIbAEFdovWZBEBABBBBBJ",
      some "bdVByYcCIbAEFdovWZBEBABBBBBJ"⟩,
    ⟨"hira", "hiragana",
      "shDdHGCfpeVlASAbDCymVA",
      some "seRCEJBMQFBAEBDdHCHdMBcztGBkWEKAbTBcouRlASAbDCymVA"⟩,
    ⟨"hluw", "anatolianhieroglyphs",
      "essEwK",
      none⟩,
    ⟨"hmng", "pahawhhmong",
      "fhmEcRKJBGBUFS",
      none⟩,
    ⟨"hmnp", "nyiakengpuachuehmong",
      "haeAbSDNCJEB",
      none⟩,
    ⟨"hung", "oldhungarian",
      "dxrSbYNbYHF",
      some "mgOACAfgDAPAdgeGbYNbYHF"⟩,
    ⟨"ital", "olditalic",
      "ducEbJJC",
      none⟩,
    ⟨"java", "javanese",
      "cmeYcZCJEB",
      some "cmeYcZBKEB"⟩,
    ⟨"kali", "kayahli",
      "cmaAbTBA",
      some "cmaAbV"⟩,
    ⟨"kana", "katakana",
      "skVdLCCjGPiAbUBdJczhEJBbScouCDBGBBBAlBCbYAOD",
      some "bdTAbDAqzTCEJBMQFBAEBdNDDdRjGPiAbUBdJcywBBkWcKcouADBGBBBAlBCbYAOD"⟩,
    ⟨"kawi", "kawi",
      "eerWQBbODbC",
      none⟩,
    ⟨"khar", "kharoshthi",
      "dwtCDBBFHBCBbCCCEJHI",
      none⟩,
    ⟨"khmr", "khmer",
      "ixKdPCJGJsSbF",
      none⟩,
    ⟨"khoj", "khojki",
      "dztWRBbU",
      some "edIJchoIJbobMRBbU"⟩,
    ⟨"kits", "khitansmallscript",
      "fjiIAkgXsBbPA",
      none⟩,
    ⟨"knda", "kannada",
      "etCMBCBWBJBECIBCBDHBGBBDCJBC",
      some "dnTBRBbeOMBCBWBJBECIBCBDHBGBBDCJBCgaEABBGAXABAcasXF"⟩,
    ⟨"krai", "kiratrai",
      "fiiIcF",
      none⟩,
    ⟨"kthi", "kaithi",
      "dzfCcOKA",
      some "doOJnxXAbufEJbnmScOKA"⟩,
    ⟨"lana", "taitham",
      "jxGcKBbCCKGJGN",
      none⟩,
    ⟨"laoo", "lao",
      "fmVBBABEBXBABWCEBABGBJCD",
      none⟩,
    ⟨"latn", "latin",
      "cNZGZbVAPAFWBbEBrGbNEjxBbLGbWFDFMBcRcNjVoFANAQMfLBGAbBARbOecTbFbulMdXDcOCBBABHVNbfKbQBIBDb" ++
      "edQGboKZGZdcFFBbPBIddnPbEGF",
      some ("cNZGZbVAMACAFWBbEBrGDAKABCBAJABAGEbBOBBBAPCHBBBbMAFAEMkRBbvEBcxKAeoIbLGbWFDFMBcRcFAHjVlRAc" ++
      "NANAQMdFAcFBGAbBARbOecTbFpRAbtuMHbAdXDcOCBBABHVNlQAtTbQBIBDbedQGboKZGZdcFFBbPBIddnPbEGF")⟩,
    ⟨"lepc", "lepcha",
      "kpScDDODC",
      none⟩,
    ⟨"limb", "limbu",
      "jmEbEBLELEADL",
      some "doNAfxQbEBLELEADL"⟩,
    ⟨"lina", "lineara",
      "dvfSlYJVKH",
      some "dtiTbSbvGlYJVKH"⟩,
    ⟨"linb", "linearb",
      "dsyQLBZBSBBBOCNbIeS",
      some "dsyQLBZBSBBBOCNbIeSFCEbSDI"⟩,
    ⟨"lisu", "lisu",
      "ckkUbVbumAA",
      some "baYAQArdKBbsfSbVbumAA"⟩,
    ⟨"lyci", "lycian",
      "dtxGbC",
      some "mgOAdhqRbC"⟩,
    ⟨"lydi", "lydian",
      "dwkMZFA",
      some "hBArfTAdexQZFA"⟩,
    ⟨"mahj", "mahajani",
      "dznCbM",
      some "hBAdhKLcidCJbnuSbM"⟩,
    ⟨"maka", "makasar",
      "eeqQY",
      none⟩,
    ⟨"mand", "mandaic",
      "ddGbBCA",
      some "cjOAtRbBCA"⟩,
    ⟨"mani", "manichaean",
      "dxaMbMEL",
      some "cjOAduqXbMEL"⟩,
    ⟨"marc", "marchen",
      "edsQbFCVBN",
      none⟩,
    ⟨"medf", "medefaidrin",
      "fisEdM",
      none⟩,
    ⟨"mend", "mendekikakui",
      "hcuYhOCP",
      none⟩,
    ⟨"merc", "meroiticcursive",
      "dwpKXETCbT",
      none⟩,
    ⟨"mero", "meroitichieroglyphs",
      "dwoEbF",
      some "mgRAdkhMbF"⟩,
    ⟨"mlym", "malayalam",
      "eyAMBCBbYBCBFEPCZ",
      some "dnTBRBbjMMBCBbYBCBFEPCZfvEAXAcasZC"⟩,
    ⟨"modi", "modi",
      "ebhGcQLJ",
      some "clsAJbpoWcQLJ"⟩,
    ⟨"mong", "mongolian",
      "jcIBCABTGdKHbQdscBM",
      some "jcIZGdKHbQcwAAfzTBFDdjfWM"⟩,
    ⟨"mroo", "mro",
      "fheUbEBJEB",
      none⟩,
    ⟨"mtei", "meeteimayek",
      "cmsMWhTbTCJ",
      none⟩,
    ⟨"mult", "multani",
      "dzyUGBABDBOBK",
      some "dyKJdwaAGBABDBOBK"⟩,
    ⟨"mymr", "myanmar",
      "gbOgDcgaYbEdTbFbpaMT",
      some "gbOgDcfuCAgVbEdTbFbpaMT"⟩,
    ⟨"nagm", "nagmundari",
      "hbpObP",
      none⟩,
    ⟨"nand", "nandinagari",
      "ecqYHCbTCK",
      some "dnTASBbiMJgbHAIAHAcasRFbqySHCbTCK"⟩,
    ⟨"narb", "oldnortharabian",
      "dwyAbF",
      none⟩,
    ⟨"nbat", "nabataean",
      "dweIbEII",
      none⟩,
    ⟨"newa", "newa",
      "eanOdNBE",
      some "dnTBhkCABBJAGABABAdpoSdNBE"⟩,
    ⟨"nkoo", "nko",
      "cyIcGCC",
      some "chOAOADAqAcGCCdowSB"⟩,
    ⟨"nshu", "nushu",
      "fjiFAyvMpF",
      none⟩,
    ⟨"ogam", "ogham",
      "inObC",
      none⟩,
    ⟨"olck", "olchiki",
      "ksUbV",
      none⟩,
    ⟨"onao", "olonal",
      "hbzKbQEA",
      some "doMBgykWbQEA"⟩,
    ⟨"orkh", "oldturkic",
      "dxmUcU",
      some "mgOAfgFAdfzZcU"⟩,
    ⟨"orya", "oriya",
      "eeJCBHCBCVBGBBBECICBCCHCEBBECR",
      some "dnTBRBpVCBHCBCVBGBBBECICBCCHCEBBECRgpEAXA"⟩,
    ⟨"osge", "osage",
      "dusUbJEbJ",
      some "bdPACAGAcYAdtlVbJEbJ"⟩,
    ⟨"osma", "osmanya",
      "duqYbDCJ",
      none⟩,
    ⟨"ougr", "olduyghur",
      "dyuQZ",
      some "cjOAdusVAbsFZ"⟩,
    ⟨"palm", "palmyrene",
      "dwdCbF",
      none⟩,
    ⟨"pauc", "paucinhau",
      "edcAcE",
      none⟩,
    ⟨"perm", "oldpermic",
      "dufGbQ",
      some "hBAwMAFCKAoDAdsmUbQ"⟩,
    ⟨"phag", "phagspa",
      "clsQcD",
      some "jcKBBAdcJAfzUAbtnXcD"⟩,
    ⟨"phli", "inscriptionalpahlavi",
      "dxgQSFH",
      none⟩,
    ⟨"phlp", "psalterpahlavi",
      "dxhWRHDMG",
      some "cjOAduyHRHDMG"⟩,
    ⟨"phnx", "phoenician",
      "dwjGbBDA",
      none⟩,
    ⟨"plrd", "miao",
      "fizOcWEcEHQ",
      none⟩,
    ⟨"prti", "inscriptionalparthian",
      "dxfKVCH",
      none⟩,
    ⟨"rjng", "rejang",
      "cmbWbJLA",
      none⟩,
    ⟨"rohg", "hanifirohingya",
      "dxwQbNIJ",
      some "chOAOADAbGAfRAdvhJbNIJ"⟩,
    ⟨"runr", "runic",
      "ioUcWDK",
      some "ioUdK"⟩,
    ⟨"samr", "samaritan",
      "daUbTCO",
      some "daUbTCOojQA"⟩,
    ⟨"sarb", "oldsoutharabian",
      "dwwUbF",
      none⟩,
    ⟨"saur", "saurashtra",
      "clvCcRIL",
      none⟩,
    ⟨"sgnw", "signwriting",
      "gwtKzBPEBO",
      none⟩,
    ⟨"shaw", "shavian",
      "dupCbV",
      some "hBAduiAbV"⟩,
    ⟨"shrd", "sharada",
      "dzoYdR",
      some "dnTAhkFABACBCAJACAcatEFCAbnwPdR"⟩,
    ⟨"sidd", "siddham",
      "ebcIcBCbL",
      none⟩,
    ⟨"sind", "khudawadi",
      "eaaQcGFJ",
      some "doMBcidMJboiGcGFJ"⟩,
    ⟨"sinh", "sinhala",
      "fcZCBRDXBIBACGDAEFBABHGJCCdulGT",
      some "doMBboLCBRDXBIBACGDAEFBABHGJCCfrPAdotQT"⟩,
    ⟨"sogd", "sogdian",
      "dysEbP",
      some "cjOAdwiPbP"⟩,
    ⟨"sogo", "oldsogdian",
      "dyqIbN",
      none⟩,
    ⟨"sora", "sorasompeng",
      "dziEYHJ",
      none⟩,
    ⟨"soyo", "soyombo",
      "ecxSdE",
      none⟩,
    ⟨"sund", "sundanese",
      "kkUcLjWH",
      none⟩,
    ⟨"sunu", "sunuwar",
      "edlWbHOJ",
      some "bdOBBAJACAbCADAecgKbHOJ"⟩,
    ⟨"sylo", "sylotinagri",
      "clqEbS",
      some "doMBeYJchwIbS"⟩,
    ⟨"syrc", "syriac",
      "cqYNBcHCCkMK",
      some "bdRBCBBAYCHBBBbcCAOBCAbGAKKbAAfNNBcHCCkMKieFABA"⟩,
    ⟨"tagb", "tagbanwa",
      "iwEMBCBB",
      some "iuNBbPMBCBB"⟩,
    ⟨"takr", "takri",
      "ebmEcFGJ",
      some "doMBcidMJbptUcFGJ"⟩,
    ⟨"tale", "taile",
      "jpGbDCE",
      some "bdOBFBDAezZJdkWbDCE"⟩,
    ⟨"talu", "newtailue",
      "jrCbREZGKDB",
      none⟩,
    ⟨"taml", "tamil",
      "ejIBBFDCBDDBBABBDBDCDLEEDCBDCAGAOUealHbXNA",
      some "dnTBRBuUBBFDCBDDBBABBDBDCDLEEDCBDCAGAOUgkDAcbbKAboeFABAcDBetFbXNA"⟩,
    ⟨"tang", "tangut",
      "fjiEAbFjbZIbdNtSI",
      some "seAPtBAeqkMAbFjbZIbdNtSI"⟩,
    ⟨"tavt", "taiviet",
      "cmoUcOYE",
      none⟩,
    ⟨"telu", "telugu",
      "eoEMBCBWBPCIBCBDHBBCCACDCJHI",
      some "dnTBRBzQMBCBWBPCIBCBDHBBCCACDCJHIgeVBBABAXA"⟩,
    ⟨"tfng", "tifinagh",
      "rcYcDHBOA",
      some "bdQABABDZApyAcDHBOA"⟩,
    ⟨"tglg", "tagalog",
      "isMVJA",
      some "isMVJAVB"⟩,
    ⟨"thaa", "thaana",
      "cvWbX",
      some "chOAOBCAcMJkSbXdpgQAKA"⟩,
    ⟨"thai", "thai",
      "fhXcFFbB",
      some "baYAbAAbRAbTAecLcFFbB"⟩,
    ⟨"tibt", "tibetan",
      "frScTBbJEbMBbJBOBGEB",
      some "frScTBbJEbMBbJBOBGEBmeVD"⟩,
    ⟨"tirh", "tirhuta",
      "easMcTIJ",
      some "dnTBRBhjJAMAPAcasZJbpaCcTIJ"⟩,
    ⟨"tnsa", "tangsa",
      "fhgQdABJ",
      none⟩,
    ⟨"todr", "todhri",
      "dvdGbZ",
      some "bdPACACAJABAcWAdtwBbZ"⟩,
    ⟨"toto", "toto",
      "hatKbE",
      some "baYAgzsLbE"⟩,
    ⟨"tutg", "tulutigalari",
      "eaiQJBACABbLBJBACABDBJBBIB",
      some "exAJgbQABAcasXFhFAbojEJBACABbLBJBACABDBJBBIB"⟩,
    ⟨"ugar", "ugaritic",
      "duhCbDBA",
      none⟩,
    ⟨"vaii", "vai",
      "ckmQlN",
      none⟩,
    ⟨"vith", "vithkuqi",
      "dvaEKBOBGBBBKBOBGBB",
      none⟩,
    ⟨"wara", "warangciti",
      "echCdEMA",
      none⟩,
    ⟨"wcho", "wancho",
      "havGcFFA",
      none⟩,
    ⟨"xpeo", "oldpersian",
      "duiIbJEN",
      none⟩,
    ⟨"xsux", "cuneiform",
      "efbSbjLdYeGBELhN",
      none⟩,
    ⟨"yezi", "yezidi",
      "dylKbPBCCB",
      some "chOAOADAcMJdwaGbPBCCB"⟩,
    ⟨"yiii", "yi",
      "cipKbsUDcC",
      some "seRBFJCHiPAbqbCbsUDcCbiiCE"⟩,
    ⟨"zanb", "zanabazarsquare",
      "ecuQcT",
      none⟩,
    ⟨"zinh", "inherited",
      "bdOeHkRBrKKbAAbcIDgoXbEtTCBMBGEAGADBhQcLuEBhMbGftXDeDBczuJPQNblNAiSAgfAActcUbTCWuYCRHCGbED" ++
      "btlhIjF",
      some "beDACABODGCACPBBBRBEBDcgMBgoXbEbdBcBBABEuEBhMbFdfsQPQNblNAczqObTCWuYCRHCGbEDbtlhIjF"⟩,
    ⟨"zyyy", "common",
      "AcMbAFbAbUBOBEXAbFArHbMFECTeMAJAGABAyNAGAOADAbGAgAAtWAeZBbvTApPDlEAcgLCcTBhVBBAbvHANAHDBFB" ++
      "CCAbdTLCdIBKDKBORbGcLbLBCCFBbABQbPCEzPWKVbjRjWyDCbFBeAtSdPpMUBABYPHEDdNBDAdMBfRPbGbLJAbWcL" ++
      "bFdCbVAdKgLjtOcLbhsIbHdYCgJJjKAgEApFAOBbezQBiAJWbIBSBDfRABbFbAFbAKKAbTBcMGBGKEjYCEbSDIdCMb" ++
      "ZbSiUbAcshWDfvGjPGqTgAeLcIjLKbMCcJDQIBHbDEcIiFTMTMdIJYfFdGBcSBBCACBCDBLBABGBcMBDCHBGBbBBDB" ++
      "EBADGBnBClFCbXhtHcPcYcIbbEbREdVMOCOBOBbKKgRcEZBBNbREIHBOFfYblVEQDMDeOEdQGLEAPLEcDIJGbNIbDC" ++
      "LEBcKnBMNCMDJFcDHOCKGIHfQBdXbsuxBAbEdR",
      some ("AcMbAFbAbUBLBBBEXAbFArHCBJBADABIBABFFECTeWAGABAyNAiHAtWAcaUApPDgdBLCbGBbEBJBBBGBKDKBORbGcL" ++
      "bLBCCFBbABQbPCEzPWKVbjRjWyDCbFBeAtSWBXCJBDBABZqCADANANAVAuJXbFAbXOMDgFJFdRbFAjtOcLbhsQZdYC" ++
      "blOAOBbfhSJWUCLBSBDfRABbFbAFbAFeXGBGKEpMMbZbScynBjPGqTgAeLcIjLKbMCcJDQIBHbDEcIiFTMTMdIbBGf" ++
      "FdGBcSBBCACBCDBLBABGBcMBDCHBGBbBBDBEBADGBnBClFCbXhtHcPcYcIbbEbREdVMOCOBOBbKKgRcEZBBNbREIXF" ++
      "fYblVEQDMDeOEdQGLEAPLEcDIJGbNIbDCLEBcKnBMNCMDJFcDHOCKGIHfQBdXbsuxBAbEdR")⟩]

end ComponentQuery.Unicode
