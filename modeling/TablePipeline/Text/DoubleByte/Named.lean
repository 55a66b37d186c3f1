import TablePipeline.Text.CharacterSet.Big5
import TablePipeline.Text.CharacterSet.Gb2312
import TablePipeline.Text.CharacterSet.JisX0208
import TablePipeline.Text.CharacterSet.JisX0212
import TablePipeline.Text.CharacterSet.KsX1001
import TablePipeline.Text.DoubleByte.Basic

/-!
The encodings of Chinese, Japanese and Korean text in which most characters are two bytes.
-/
namespace TablePipeline.Text

namespace CharacterSet

/-- The narrow katakana, in a row of their own. -/
def narrowKatakana : CharacterSet := .ofCodes [(0, 0, 0xFF61, 63)]

/-- The set of Chinese encodings in rows of 190 cells: GB 2312 at the end of the later rows, and the
unified ideographs that it does not have at the start of rows, in the order of their codes. -/
def chinese : CharacterSet :=
  let standard := (gb2312.replacing [('・', '·'), ('―', '—')]).moved 32 96
  let others := gb2312.missing 0x4E00 20902 ++ chineseCompatibility.toList.toArray
  (chineseExtension.onTopOf (.ofCells 0 0 190 32 others)).onTopOf
    ((CharacterSet.ofCells 41 0 96 85 (others.extract (32 * 190) others.size)).onTopOf standard)

/-- The Korean set in rows of 178 cells: KS X 1001 at the end of the later rows, and the syllables
that it does not have at the start of rows, in the order of their codes. -/
def korean : CharacterSet :=
  let others := ksX1001.missing 0xAC00 11172
  (CharacterSet.ofCells 0 0 178 32 others).onTopOf
    ((CharacterSet.ofCells 32 0 84 38 (others.extract (32 * 178) others.size)).onTopOf
      (ksX1001.moved 32 84))

end CharacterSet

namespace DoubleByte

def upper : Ranges := [(0xA1, 0xFE)]

/-- The single bytes of narrow katakana. -/
def katakanaBytes : List (Nat × Nat × Nat) := [(0xA1, 0xFF61, 63)]

/-- Signs of Japanese keyboards in the place of signs of ASCII. -/
def yenAndOverline : List (Char × Char) := [('¥', '\\'), ('‾', '~')]

def shiftJis : DoubleByte where
  label := "shift_jis"
  set := CharacterSet.jisX0208.paired 94
  leads := [(0x81, 0x9F), (0xE0, 0xEA)]
  trails := [(0x40, 0x7E), (0x80, 0xFC)]
  singles := katakanaBytes
  likened := yenAndOverline
  waits := false

def shiftJisExtended : DoubleByte where
  label := "cp932"
  set := ((CharacterSet.japaneseExtension.onTopOf .japanesePrivate).onTopOf .jisX0208).paired 94
  leads := [(0x81, 0x9F), (0xE0, 0xFC)]
  trails := [(0x40, 0x7E), (0x80, 0xFC)]
  singles := katakanaBytes ++ [(0x80, 0x80, 1), (0xA0, 0xF8F0, 1), (0xFD, 0xF8F1, 3)]

def eucJapanese : DoubleByte where
  label := "euc_jp"
  set := CharacterSet.narrowKatakana.onTopOf (CharacterSet.jisX0208.moved 1 0)
  leads := (0x8E, 0x8E) :: upper
  trails := upper
  likened := yenAndOverline
  long := .supplement .jisX0212

def eucChinese : DoubleByte where
  label := "gb2312"
  set := .gb2312
  leads := upper
  trails := upper

def gbk : DoubleByte where
  label := "gbk"
  set := .chinese
  leads := [(0x81, 0xFE)]
  trails := [(0x40, 0x7E), (0x80, 0xFE)]

def gb18030 : DoubleByte where
  label := "gb18030"
  set := (CharacterSet.chineseLaterExtension.onTopOf .chinesePrivate).onTopOf .chinese
  leads := [(0x81, 0xFE)]
  trails := [(0x40, 0x7E), (0x80, 0xFE)]
  long := .ordered

def big5 : DoubleByte where
  label := "big5"
  set := .big5
  leads := upper
  trails := [(0x40, 0x7E), (0xA1, 0xFE)]

def big5Extended : DoubleByte where
  label := "cp950"
  set := CharacterSet.big5Extension.onTopOf .big5
  leads := upper
  trails := [(0x40, 0x7E), (0xA1, 0xFE)]

def eucKorean : DoubleByte where
  label := "euc_kr"
  set := .ksX1001
  leads := upper
  trails := upper
  long := .spelled

def eucKoreanExtended : DoubleByte where
  label := "cp949"
  set := .korean
  leads := [(0x81, 0xFE)]
  trails := [(0x41, 0x5A), (0x61, 0x7A), (0x81, 0xFE)]

/-- The encodings by their labels. -/
def encodings : List DoubleByte := [
  shiftJis, shiftJisExtended, eucJapanese, eucChinese, gbk, gb18030, big5, big5Extended, eucKorean,
  eucKoreanExtended]

/-- The encoding of a name. -/
def named? (name : String) : Option DoubleByte := encodings.find? (·.label == name)

end DoubleByte

end TablePipeline.Text
