import DocPath.Unicode.RangeTable
import DocPath.Unicode.Tables.Script

/-! # Scripts

A character belongs to one script, and some characters are shared by several.  A
script goes by a four-letter code; its names are found without regard to
case. -/

namespace DocPath.Unicode

/-- A writing system, by its four-letter code. -/
structure Script where
  code : String
deriving DecidableEq, Repr

namespace Script

/-- The code of each script, followed by its names in lower case. -/
def nameRows : List String := [
  "Adlm=adlam Aghb=caucasianalbanian Ahom Arab=arabic Armi=imperialaramaic Armn=armenian",
  "Avst=avestan Bali=balinese Bamu=bamum Bass=bassavah Batk=batak Beng=bengali",
  "Berf=beriaerfe Bhks=bhaiksuki Bopo=bopomofo Brah=brahmi Brai=braille Bugi=buginese",
  "Buhd=buhid Cakm=chakma Cans=canadianaboriginal Cari=carian Cham Cher=cherokee",
  "Chrs=chorasmian Copt=coptic=qaac Cpmn=cyprominoan Cprt=cypriot Cyrl=cyrillic",
  "Deva=devanagari Diak=divesakuru Dogr=dogra Dsrt=deseret Dupl=duployan",
  "Egyp=egyptianhieroglyphs Elba=elbasan Elym=elymaic Ethi=ethiopic Gara=garay",
  "Geor=georgian Glag=glagolitic Gong=gunjalagondi Gonm=masaramgondi Goth=gothic",
  "Gran=grantha Grek=greek Gujr=gujarati Gukh=gurungkhema Guru=gurmukhi Hang=hangul",
  "Hani=han Hano=hanunoo Hatr=hatran Hebr=hebrew Hira=hiragana Hluw=anatolianhieroglyphs",
  "Hmng=pahawhhmong Hmnp=nyiakengpuachuehmong Hung=oldhungarian Ital=olditalic",
  "Java=javanese Kali=kayahli Kana=katakana Kawi Khar=kharoshthi Khmr=khmer Khoj=khojki",
  "Kits=khitansmallscript Knda=kannada Krai=kiratrai Kthi=kaithi Lana=taitham Laoo=lao",
  "Latn=latin Lepc=lepcha Limb=limbu Lina=lineara Linb=linearb Lisu Lyci=lycian Lydi=lydian",
  "Mahj=mahajani Maka=makasar Mand=mandaic Mani=manichaean Marc=marchen Medf=medefaidrin",
  "Mend=mendekikakui Merc=meroiticcursive Mero=meroitichieroglyphs Mlym=malayalam Modi",
  "Mong=mongolian Mroo=mro Mtei=meeteimayek Mult=multani Mymr=myanmar Nagm=nagmundari",
  "Nand=nandinagari Narb=oldnortharabian Nbat=nabataean Newa Nkoo=nko Nshu=nushu Ogam=ogham",
  "Olck=olchiki Onao=olonal Orkh=oldturkic Orya=oriya Osge=osage Osma=osmanya",
  "Ougr=olduyghur Palm=palmyrene Pauc=paucinhau Perm=oldpermic Phag=phagspa",
  "Phli=inscriptionalpahlavi Phlp=psalterpahlavi Phnx=phoenician Plrd=miao",
  "Prti=inscriptionalparthian Rjng=rejang Rohg=hanifirohingya Runr=runic Samr=samaritan",
  "Sarb=oldsoutharabian Saur=saurashtra Sgnw=signwriting Shaw=shavian Shrd=sharada",
  "Sidd=siddham Sidt=sidetic Sind=khudawadi Sinh=sinhala Sogd=sogdian Sogo=oldsogdian",
  "Sora=sorasompeng Soyo=soyombo Sund=sundanese Sunu=sunuwar Sylo=sylotinagri Syrc=syriac",
  "Tagb=tagbanwa Takr=takri Tale=taile Talu=newtailue Taml=tamil Tang=tangut Tavt=taiviet",
  "Tayo=taiyo Telu=telugu Tfng=tifinagh Tglg=tagalog Thaa=thaana Thai Tibt=tibetan",
  "Tirh=tirhuta Tnsa=tangsa Todr=todhri Tols=tolongsiki Toto Tutg=tulutigalari",
  "Ugar=ugaritic Vaii=vai Vith=vithkuqi Wara=warangciti Wcho=wancho Xpeo=oldpersian",
  "Xsux=cuneiform Yezi=yezidi Yiii=yi Zanb=zanabazarsquare Zinh=inherited=qaai Zyyy=common"]

/-- The scripts with their names. -/
def named : List (Script × List String) :=
  (entries nameRows).map fun entry =>
    match entry.splitOn "=" with
    | code :: names => (⟨code⟩, String.ofList (code.toList.map Char.toLower) :: names)
    | [] => (⟨entry⟩, [])

/-- The script with the given name, written in lower case without blanks,
hyphens and underscores. -/
def ofName? (name : String) : Option Script :=
  (named.find? fun entry => entry.2.contains name).map (·.1)

end Script

/-- The runs of the code points that belong to one script. -/
def scriptTable : RunTable Script :=
  .ofRows Script.mk Tables.script

/-- The script of a character. -/
def script (c : Char) : Script :=
  (scriptTable.find? c.toNat).getD ⟨"Zzzz"⟩

/-- The ranges of characters that several scripts share, with those scripts. -/
def scriptExtensionTable : List ((Nat × Nat) × List Script) :=
  (entries Tables.scriptExtensions).map fun entry =>
    match entry.splitOn ":" with
    | [range, codes] => (rangeOfEntry range, (codes.splitOn ",").map Script.mk)
    | _ => ((0, 0), [])

/-- The scripts in which a character is used. -/
def scriptExtensions (c : Char) : List Script :=
  match scriptExtensionTable.find? fun e => e.1.1 ≤ c.toNat && c.toNat ≤ e.1.2 with
  | some (_, scripts) => scripts
  | none => [script c]

end DocPath.Unicode
