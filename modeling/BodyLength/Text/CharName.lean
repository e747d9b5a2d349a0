import BodyLength.Text.CharNames.EastAsia
import BodyLength.Text.CharNames.OldScripts
import BodyLength.Text.CharNames.Pictures
import BodyLength.Text.CharNames.Scripts
import BodyLength.Text.CharNames.Symbols
import BodyLength.Text.CharTable

/-!
# Characters by name

Every character has a name in capital letters, and some have aliases besides. Where a name is asked for the case of its
letters does not count, except in the names that follow a rule: those of unified ideographs, which end with the code of
the character, and those of Hangul syllables, which spell it.

The names that follow no rule are listed in the order of their characters. A run of characters that follow one another
begins with the code of the first, and runs stand apart by semicolons. In front of each name stands a small letter that
says how many words it begins with are those of the name before it: none for the letter a, one for b and so on. These
words are left out.
-/

namespace BodyLength.CharNames

/-! ## Listed names -/

/-- The names that characters have besides their own. -/
def aliases : List String :=
  ["0aNUL; 0aNULLaSOH; 1aSTART OF HEADINGcTEXT; 2aSTXaEND OF TEXT; 3aETXaEND OF TRANSMISSION; 4aEOTaENQ; 5aENQUIRY",
    "6aACK; 6aACKNOWLEDGEaALERT; 7aBELaBACKSPACE; 8aBSaCHARACTER TABULATION; 9aHORIZONTAL TABULATION; 9aHT; 9aTAB",
    "AaEND OF LINE; AaEOL; AaLF; AaLINE FEED; AaNEW LINE; AaNLaLINE TABULATION; BaVERTICAL TABULATION; BaVTaFF",
    "CaFORM FEEDaCARRIAGE RETURN; DaCRaLOCKING-SHIFT ONE; EaSHIFT OUT; EaSOaLOCKING-SHIFT ZERO; FaSHIFT IN; FaSI",
    "10aDATA LINK ESCAPE; 10aDLEaDC1; 11aDEVICE CONTROL ONEaDC2; 12aDEVICE CONTROL TWOaDC3; 13aDEVICE CONTROL THREE",
    "14aDC4; 14aDEVICE CONTROL FOURaNAK; 15aNEGATIVE ACKNOWLEDGEaSYN; 16aSYNCHRONOUS IDLEaEND OF TRANSMISSION BLOCK",
    "17aETBaCAN; 18aCANCELaEND OF MEDIUM; 19aEOMaSUB; 1AaSUBSTITUTEaESC; 1BaESCAPEaFILE SEPARATOR; 1CaFS",
    "1CaINFORMATION SEPARATOR FOURaGROUP SEPARATOR; 1DaGS; 1DaINFORMATION SEPARATOR THREEcTWO; 1EaRECORD SEPARATOR",
    "1EaRSaINFORMATION SEPARATOR ONE; 1FaUNIT SEPARATOR; 1FaUSaSP; 7FaDEL; 7FaDELETEaPAD; 80aPADDING CHARACTER",
    "81aHIGH OCTET PRESET; 81aHOPaBPH; 82aBREAK PERMITTED HEREaNBH; 83aNO BREAK HEREaIND; 84aINDEXaNEL; 85aNEXT LINE",
    "86aSSA; 86aSTART OF SELECTED AREAaEND OF SELECTED AREA; 87aESAaCHARACTER TABULATION SET",
    "88aHORIZONTAL TABULATION SET; 88aHTSaCHARACTER TABULATION WITH JUSTIFICATION",
    "89aHORIZONTAL TABULATION WITH JUSTIFICATION; 89aHTJaLINE TABULATION SET; 8AaVERTICAL TABULATION SET; 8AaVTS",
    "8BaPARTIAL LINE DOWN; 8BcFORWARD; 8BaPLDaPARTIAL LINE BACKWARD; 8CcUP; 8CaPLUaREVERSE INDEX; 8DbLINE FEED",
    "8DaRIaSINGLE SHIFT TWO; 8EaSINGLE-SHIFT-2; 8EaSS2aSINGLE SHIFT THREE; 8FaSINGLE-SHIFT-3; 8FaSS3aDCS",
    "90aDEVICE CONTROL STRINGaPRIVATE USE ONE; 91bUSE-1; 91aPU1aPRIVATE USE TWO; 92bUSE-2; 92aPU2aSET TRANSMIT STATE",
    "93aSTSaCANCEL CHARACTER; 94aCCHaMESSAGE WAITING; 95aMWaSPA; 96aSTART OF GUARDED AREA; 96cPROTECTED AREA",
    "97aEND OF GUARDED AREA; 97cPROTECTED AREA; 97aEPAaSOS; 98aSTART OF STRINGaSGC",
    "99aSINGLE GRAPHIC CHARACTER INTRODUCERaSCI; 9AaSINGLE CHARACTER INTRODUCERaCONTROL SEQUENCE INTRODUCER; 9BaCSI",
    "9CaST; 9CaSTRING TERMINATORaOPERATING SYSTEM COMMAND; 9DaOSCaPM; 9EaPRIVACY MESSAGEaAPC",
    "9FaAPPLICATION PROGRAM COMMANDaNBSP; ADaSHY; 1A2aLATIN CAPITAL LETTER GHAbSMALL LETTER GHA; 34FaCGJ; 61CaALM",
    "709aSYRIAC SUBLINEAR COLON SKEWED LEFT; CDEaKANNADA LETTER LLLA; E9DaLAO LETTER FO FON; E9FdFAY; EA3cRO; EA5cLO",
    "FD0aTIBETAN MARK BKA- SHOG GI MGO RGYAN; 11ECaHANGUL JONGSEONG YESIEUNG-KIYEOKcYESIEUNG-SSANGKIYEOK",
    "11EEcSSANGYESIEUNGcYESIEUNG-KHIEUKH; 180BaFVS1aFVS2aFVS3aMVSaFVS4; 200BaZWSPaZWNJaZWJaLRMaRLM; 202AaLREaRLEaPDF",
    "202DaLROaRLOaNNBSP; 205FaMMSPaWJ; 2066aLRIaRLIaFSIaPDI; 2118aWEIERSTRASS ELLIPTIC FUNCTION",
    "2448aMICR ON US SYMBOLbDASH SYMBOL; 2B7AaLEFTWARDS TRIANGLE-HEADED ARROW WITH DOUBLE VERTICAL STROKE",
    "2B7CaRIGHTWARDS TRIANGLE-HEADED ARROW WITH DOUBLE VERTICAL STROKE; A015aYI SYLLABLE ITERATION MARK",
    "AA6EaMYANMAR LETTER KHAMTI LLA; FE00aVS1aVS2aVS3aVS4aVS5aVS6aVS7aVS8aVS9aVS10aVS11aVS12aVS13aVS14aVS15aVS16",
    "FE18aPRESENTATION FORM FOR VERTICAL RIGHT WHITE LENTICULAR BRACKET; FEFFaBOM; FEFFaBYTE ORDER MARK; FEFFaZWNBSP",
    "122D4aCUNEIFORM SIGN NU11 TENUdOVER NU11 BUR OVER BUR; 16E56aMEDEFAIDRIN CAPITAL LETTER HdNG",
    "16E76bSMALL LETTER HdNG; 1B001aHENTAIGANA LETTER E-1",
    "1D0C5aBYZANTINE MUSICAL SYMBOL FTHORA SKLIRON CHROMA VASIS; E0100aVS17aVS18aVS19aVS20aVS21aVS22aVS23aVS24aVS25",
    "E0109aVS26aVS27aVS28aVS29aVS30aVS31aVS32aVS33aVS34aVS35aVS36aVS37aVS38aVS39aVS40aVS41aVS42aVS43aVS44aVS45aVS46",
    "E011EaVS47aVS48aVS49aVS50aVS51aVS52aVS53aVS54aVS55aVS56aVS57aVS58aVS59aVS60aVS61aVS62aVS63aVS64aVS65aVS66aVS67",
    "E0133aVS68aVS69aVS70aVS71aVS72aVS73aVS74aVS75aVS76aVS77aVS78aVS79aVS80aVS81aVS82aVS83aVS84aVS85aVS86aVS87aVS88",
    "E0148aVS89aVS90aVS91aVS92aVS93aVS94aVS95aVS96aVS97aVS98aVS99aVS100aVS101aVS102aVS103aVS104aVS105aVS106aVS107",
    "E015BaVS108aVS109aVS110aVS111aVS112aVS113aVS114aVS115aVS116aVS117aVS118aVS119aVS120aVS121aVS122aVS123aVS124",
    "E016CaVS125aVS126aVS127aVS128aVS129aVS130aVS131aVS132aVS133aVS134aVS135aVS136aVS137aVS138aVS139aVS140aVS141",
    "E017DaVS142aVS143aVS144aVS145aVS146aVS147aVS148aVS149aVS150aVS151aVS152aVS153aVS154aVS155aVS156aVS157aVS158",
    "E018EaVS159aVS160aVS161aVS162aVS163aVS164aVS165aVS166aVS167aVS168aVS169aVS170aVS171aVS172aVS173aVS174aVS175",
    "E019FaVS176aVS177aVS178aVS179aVS180aVS181aVS182aVS183aVS184aVS185aVS186aVS187aVS188aVS189aVS190aVS191aVS192",
    "E01B0aVS193aVS194aVS195aVS196aVS197aVS198aVS199aVS200aVS201aVS202aVS203aVS204aVS205aVS206aVS207aVS208aVS209",
    "E01C1aVS210aVS211aVS212aVS213aVS214aVS215aVS216aVS217aVS218aVS219aVS220aVS221aVS222aVS223aVS224aVS225aVS226",
    "E01D2aVS227aVS228aVS229aVS230aVS231aVS232aVS233aVS234aVS235aVS236aVS237aVS238aVS239aVS240aVS241aVS242aVS243",
    "E01E3aVS244aVS245aVS246aVS247aVS248aVS249aVS250aVS251aVS252aVS253aVS254aVS255aVS256"]

/-- All names that are listed, in parts. -/
def listed : List (List String) :=
  [from0000, from0800, from1000, from1800, from2000, from2600, from3000, fromA800, from10000, from10A00, from11800,
    from13000, from16800, from1D400, from1F300, aliases]

/-- What a run consists of: its code, and for each of its names the number of words that are left out and the others. -/
def piecesOfRun : List Char → List Char × List (Nat × List Char)
  | [] => ([], [])
  | c :: rest =>
    let (first, more) := piecesOfRun rest
    if c.isLower then ([], (c.toNat - 97, first) :: more) else (c :: first, more)

/-- The code of a name in a run, if it is there, and the words of the last name looked at. `before` are those of the
name before, and `code` is that of the first name. -/
def findInRun (name : List (List Char)) (before : List (List Char)) (code : Nat) :
    List (Nat × List Char) → Option Nat × List (List Char)
  | [] => (none, before)
  | (shared, others) :: rest =>
    let words := before.take shared ++ splitAtChar ' ' others
    if words == name then (some code, words) else findInRun name words (code + 1) rest

/-- The code of a name in some runs. -/
def findInRuns (name : List (List Char)) (before : List (List Char)) : List (List Char) → Option Nat
  | [] => none
  | run :: rest =>
    let (first, pieces) := piecesOfRun (run.dropWhile (· == ' '))
    match findInRun name before (ofHex first) pieces with
    | (some code, _) => some code
    | (none, words) => findInRuns name words rest

/-- The code of a name in a part of the list. -/
def findInPart (name : List (List Char)) (lines : List String) : Option Nat :=
  findInRuns name [] (lines.flatMap fun line => splitAtChar ';' line.toList)

/-! ## Names that follow a rule -/

/-- What follows a beginning, if a text has it. -/
def afterStart (start : String) (cs : List Char) : Option (List Char) :=
  if start.toList.isPrefixOf cs then some (cs.drop start.toList.length) else none

/-- Is the character a hexadecimal digit in a name? -/
def isNameDigit (c : Char) : Bool :=
  c.isDigit || ('A' ≤ c && c ≤ 'F')

/-- The code of four or five hexadecimal digits, if it lies in a range. -/
def codeWithin (ranges : List (Nat × Nat)) (digits : List Char) : Option Nat :=
  if (digits.length = 4 || digits.length = 5) && digits.all isNameDigit then
    some (ofHex digits) |>.filter fun code => ranges.any fun r => r.1 ≤ code && code ≤ r.2
  else none

/-- The unified ideographs. -/
def unifiedIdeographs : List (Nat × Nat) :=
  [(0x3400, 0x4DBF), (0x4E00, 0x9FFF), (0x20000, 0x2A6DF), (0x2A700, 0x2B738), (0x2B740, 0x2B81D),
    (0x2B820, 0x2CEA1), (0x2CEB0, 0x2EBE0), (0x30000, 0x3134A)]

/-- The beginnings of further names that end with the code of the character, which has no leading zero. -/
def codedNames : List (String × List (Nat × Nat)) :=
  [("CJK COMPATIBILITY IDEOGRAPH-", [(0xF900, 0xFA6D), (0xFA70, 0xFAD9), (0x2F800, 0x2FA1D)]),
    ("KHITAN SMALL SCRIPT CHARACTER-", [(0x18B00, 0x18CD5)]),
    ("NUSHU CHARACTER-", [(0x1B170, 0x1B2FB)])]

/-- The code of a name with one of these beginnings. -/
def findCoded (name : List Char) : Option Nat :=
  codedNames.findSome? fun e =>
    (afterStart e.1 name).bind fun digits => if digits.head? = some '0' then none else codeWithin e.2 digits

/-- The spellings of the first, the second and the last part of a Hangul syllable. -/
def syllableParts : List (List String) :=
  [["G", "GG", "N", "D", "DD", "R", "M", "B", "BB", "S", "SS", "", "J", "JJ", "C", "K", "T", "P", "H"],
    ["A", "AE", "YA", "YAE", "EO", "E", "YEO", "YE", "O", "WA", "WAE", "OE", "YO", "U", "WEO", "WE", "WI", "YU", "EU",
      "YI", "I"],
    ["", "G", "GG", "GS", "N", "NJ", "NH", "D", "L", "LG", "LM", "LB", "LS", "LT", "LP", "LH", "M", "B", "BS", "S",
      "SS", "NG", "J", "C", "K", "T", "P", "H"]]

/-- The longest of some spellings that a text begins with: its number, and what follows it. -/
def longestPart (spellings : List String) (cs : List Char) : Option (Nat × List Char) :=
  let fitting := spellings.zipIdx.filterMap fun e => (afterStart e.1 cs).map fun rest => (e.2, rest)
  fitting.foldl (fun best e => match best with
    | none => some e
    | some b => if e.2.length < b.2.length then some e else best) none

/-- The number of a syllable among those of the given parts, the last part counting fastest. -/
def syllableNumber : List (List String) → Nat → List Char → Option Nat
  | [], number, [] => some number
  | [], _, _ :: _ => none
  | spellings :: rest, number, cs =>
    match longestPart spellings cs with
    | none => none
    | some (index, after) => syllableNumber rest (number * spellings.length + index) after

/-! ## All names -/

/-- The code of the character with a name. -/
def find? (name : List Char) : Option Nat :=
  match afterStart "HANGUL SYLLABLE " name, afterStart "CJK UNIFIED IDEOGRAPH-" name with
  | some spelling, _ => (syllableNumber syllableParts 0 spelling).map (0xAC00 + ·)
  | none, some digits => codeWithin unifiedIdeographs digits
  | none, none =>
    let capitals := name.map Char.toUpper
    match findCoded capitals with
    | some code => some code
    | none => listed.findSome? (findInPart (splitAtChar ' ' capitals))

end BodyLength.CharNames
