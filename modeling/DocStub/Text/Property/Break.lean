import DocStub.Text.Property.Binary
import DocStub.Text.Property.Script

/-!
# Boundaries in a text

The parts that characters play where a text is cut into user-visible characters, words and
sentences: three properties of the Unicode standard, version 16.0.

* `graphemeBreaks`, `wordBreaks`, `sentenceBreaks` — the characters of each part, by its names.
-/

namespace DocStub.Text.Property

open CharSet (unions)

/-- The parts between user-visible characters that are not derived from other properties. -/
def graphemeTable : List Row := readTable "
cr: D;
lf: A;
zwj: 200D;
l: 1100-115F A960-A97C;
v: 1160-11A7 D7B0-D7C6 16D63 16D67-16D6A;
t: 11A8-11FF D7CB-D7FB;
pp prepend: 600-605 6DD 70F 890-891 8E2 D4E 110BD 110CD 111C2-111C3 113D1 1193F 11941 11A3A
  11A84-11A89 11D46 11F02;
ri regionalindicator: 1F1E6-1F1FF;
"

/-- The parts between words that are not derived from other properties. -/
def wordTable : List Row := readTable "
cr: D;
lf: A;
nl newline: B-C 85 2028-2029;
zwj: 200D;
ri regionalindicator: 1F1E6-1F1FF;
hl hebrewletter: 5D0-5EA 5EF-5F2 FB1D FB1F-FB28 FB2A-FB36 FB38-FB3C FB3E FB40-FB41 FB43-FB44
  FB46-FB4F;
ka katakana: 3031-3035 309B-309C 30A0-30FA 30FC-30FF 31F0-31FF 32D0-32FE 3300-3357 FF66-FF9D
  1AFF0-1AFF3 1AFF5-1AFFB 1AFFD-1AFFE 1B000 1B120-1B122 1B155 1B164-1B167;
dq doublequote: 22;
sq singlequote: 27;
ml midletter: 3A B7 387 55F 5F4 2027 FE13 FE55 FF1A;
mn midnum: 2C 3B 37E 589 60C-60D 66C 7F8 2044 FE50 FE54 FF0C FF1B;
mb midnumlet: 2E 2018-2019 2024 FE52 FF07 FF0E;
wsegspace: 20 1680 2000-2006 2008-200A 205F 3000;
"

/-- The parts between sentences that are not derived from other properties. -/
def sentenceTable : List Row := readTable "
cr: D;
lf: A;
se sep: 85 2028-2029;
at aterm: 2E 2024 FE52 FF0E;
sc scontinue: 2C-2D 3A-3B 37E 55D 60C-60D 7F8 1802 1808 2013-2014 3001 FE10-FE11 FE13-FE14
  FE31-FE32 FE50-FE51 FE54-FE55 FE58 FE63 FF0C-FF0D FF1A-FF1B FF64;
st sterm: 21 3F 589 61D-61F 6D4 700-702 7F9 837 839 83D-83E 964-965 104A-104B 1362 1367-1368
  166E 1735-1736 17D4-17D5 1803 1809 1944-1945 1AA8-1AAB 1B4E-1B4F 1B5A-1B5B 1B5E-1B5F 1B7D-1B7F
  1C3B-1C3C 1C7E-1C7F 203C-203D 2047-2049 2CF9-2CFB 2E2E 2E3C 2E53-2E54 3002 A4FF A60E-A60F A6F3
  A6F7 A876-A877 A8CE-A8CF A92F A9C8-A9C9 AA5D-AA5F AAF0-AAF1 ABEB FE12 FE15-FE16 FE56-FE57 FF01
  FF1F FF61 10A56-10A57 10F55-10F59 10F86-10F89 11047-11048 110BE-110C1 11141-11143 111C5-111C6
  111CD 111DE-111DF 11238-11239 1123B-1123C 112A9 113D4-113D5 1144B-1144C 115C2-115C3
  115C9-115D7 11641-11642 1173C-1173E 11944 11946 11A42-11A43 11A9B-11A9C 11C41-11C42
  11EF7-11EF8 11F43-11F44 16A6E-16A6F 16AF5 16B37-16B38 16B44 16D6E-16D6F 16E98 1BC9F 1DA88;
"

/-- Hangul syllables without a final consonant. -/
def openSyllables : CharSet :=
  .ranges ((List.range 399).map fun i => (0xAC00 + 28 * i, 0xAC00 + 28 * i))

/-- Marks that extend the character before them. -/
def clusterExtend : CharSet := .union graphemeExtend (plain "emod")

/-- Marks that take room of their own behind a character. -/
def clusterSpacing : CharSet :=
  .diff (.union (.diff (category "mc") clusterExtend) (codes "E33 EB3"))
    (codes "102B-102C 1038 1062-1064 1067-106D 1083 1087-108C 108F 109A-109C 1A61 1A63-1A64 AA7B
      AA7D 11720-11721")

/-- Characters that stand alone. -/
def clusterControl : CharSet :=
  .diff
    (.union (categoriesOf ["cc", "cf", "zl", "zp"]) (.inter defaultIgnorable unassigned))
    (.union (plain "pcm") (codes "A D 200C 200D E0020-E007F"))

/-- The parts between user-visible characters. -/
def graphemeBreaks : List Row :=
  graphemeTable ++
    [row ["ex", "extend"] clusterExtend,
      row ["sm", "spacingmark"] clusterSpacing,
      row ["cn", "control"] clusterControl,
      row ["lv"] openSyllables,
      row ["lvt"] (.diff (codes "AC00-D7A3") openSyllables)]

/-- Marks that extend a sentence. -/
def sentenceExtend : CharSet := unions [graphemeExtend, category "mc", codes "200D"]

/-- Small letters in a sentence. -/
def sentenceLower : CharSet :=
  .diff (.diff lowercase graphemeExtend) (codes "10D0-10FA 10FD-10FF")

/-- Capital letters in a sentence. -/
def sentenceUpper : CharSet :=
  .diff (.union (category "lt") uppercase) (codes "1C90-1CBA 1CBD-1CBF")

/-- Other letters in a sentence. -/
def sentenceLetter : CharSet :=
  .diff (.union alphabetic (codes "5F3")) (unions [sentenceLower, sentenceUpper, sentenceExtend])

/-- Digits in a sentence. -/
def sentenceNumeric : CharSet :=
  .union (category "nd") (codes "600-605 66B-66C 6DD 890-891 8E2 19DA 110BD 110CD")

/-- Format characters in a sentence. -/
def sentenceFormat : CharSet :=
  .diff (category "cf") (codes "200C 200D 600-605 6DD 890-891 8E2 110BD 110CD E0020-E007F")

/-- Quotation marks and brackets in a sentence. -/
def sentenceClose : CharSet :=
  .diff
    (unions
      [categoriesOf ["ps", "pe", "pi", "pf"], plain "qmark",
        codes "275B-2760 2E00-2E01 2E06-2E08 2E0B 1F676-1F678"])
    (codes "FF02 FF07")

/-- The parts between sentences. -/
def sentenceBreaks : List Row :=
  sentenceTable ++
    [row ["ex", "extend"] sentenceExtend,
      row ["fo", "format"] sentenceFormat,
      row ["sp"]
        (.diff (plain "space") (unions (["sep", "cr", "lf"].map (named sentenceTable)))),
      row ["lo", "lower"] sentenceLower,
      row ["up", "upper"] sentenceUpper,
      row ["le", "oletter"] sentenceLetter,
      row ["nu", "numeric"] sentenceNumeric,
      row ["cl", "close"] sentenceClose]

/-- Marks that extend a word. -/
def wordExtend : CharSet := .diff (.union sentenceExtend (plain "emod")) (codes "200D")

/-- Letters of the scripts that leave no space between words. -/
def unspaced : CharSet :=
  unions
    (["thai", "lao", "khmer", "myanmar", "hiragana", "taile", "newtailue", "taitham",
      "taiviet"].map (named scripts))

/-- Letters in a word. -/
def wordLetter : CharSet :=
  .diff
    (.union
      (.diff alphabetic
        (unions
          [plain "ideo", named wordTable "ka", named wordTable "hl", wordExtend, unspaced]))
      (codes "2C2-2C5 2D2-2D7 2DE-2DF 2E5-2EB 2ED 2EF-2FF 55A-55C 55E 58A 5F3 70F A708-A716
        A720-A721 A789-A78A AB5B"))
    (codes "11700-1171A 11740-11746")

/-- The parts between words. -/
def wordBreaks : List Row :=
  wordTable ++
    [row ["extend"] wordExtend,
      row ["fo", "format"] (.diff sentenceFormat (codes "70F 200B")),
      row ["le", "aletter"] wordLetter,
      row ["nu", "numeric"] (.diff sentenceNumeric (codes "66C")),
      row ["ex", "extendnumlet"] (.union (category "pc") (codes "202F"))]

end DocStub.Text.Property
