import Excerpt.Text.Mark

/-! What scripts make of their characters: the direction in which they are written, and the sides on
which they connect. -/
namespace Excerpt.Text

/-! ## Direction -/

inductive Direction where
  | leftToRight
  | rightToLeft
  | europeanDigit
  | arabicDigit
  /-- Signs, which take the direction of what is around them. -/
  | neutral
  /-- A mark, which takes the direction of its base. -/
  | mark
  deriving Repr, DecidableEq

/-- Digits of the Arabic script and of scripts like it. -/
def arabicDigits : CharSet := .ofLines
  ["0660-0669 066B-066C 10D30-10D39 10D40-10D49 10E60-10E7E"]

/-- Digits of the scripts of Europe, and those that are written like them. -/
def europeanDigits : CharSet := .ofLines
  ["0030-0039 06F0-06F9 102E1-102FB"]

/-- Signs without a direction. The runs also cover code points without a character. -/
def neutralSigns : CharSet := .ofLines
  ["0000-002F 003A-0060 007B-00D7 00F7 02B9-02BA 02C2-02CF 02D2-02ED 02EF-02FF 0375 03F6",
   "058A-058F 0606-0607 0609-060A 060C 060E-060F 066A 06DE 06E9 07F6-07F9 09F2-09F3 09FB 0AF1",
   "0BF3-0BFA 0C78-0C7E 0E3F 0F3A-0F3D 1390-1399 1400 169B-169C 17DB 17F0-180A 1940-1945",
   "19DE-19FF 200C-214D 218A-2335 237B-2394 2396-26AB 26AD-27FF 2900-2BFF 2CE5-2CEA 2CF9-2CFF",
   "2E00-3004 3008-3020 3030 3037 303D-303F 30A0 30FB 31C0-31E5 4DC0-4DFF A490-A4C6 A60D-A60F",
   "A673-A67F A700-A721 A788 A828-A82B A838-A839 A874-A877 AB6A-AB6B FBC3-FE46 10101 10140-1018C",
   "10190-101A0 1091F 10B39-10B3F 10D6E 10ED0-10ED8 11052-11065 11660-1166C 11FD5-11FF1 16FE2",
   "1CC00-1CEFF 1D1E9-1D28F 1D300-1D356 1DB00-1DBFF 1E2FF 1EEF0-1F12F 1F16D-1F16F 1F1AD-1F1AE",
   "1F260-1FBFA"]

def rightToLeftBlocks : CharSet := .ofLines
  ["0590-08FF FB1D-FDFF FE70-FEFF 10800-10FFF 1E800-1EFFF"]

/-- Marks without a space of their own that still have a direction: from left to right. -/
def directedMarks : CharSet := .ofLines
  ["0CBF 0CC6 11A07-11A08 11C3F"]

def direction (c : Char) : Direction :=
  if isNonspacing c then (if directedMarks.contains c then .leftToRight else .mark)
  else if europeanDigits.contains c then .europeanDigit
  else if arabicDigits.contains c then .arabicDigit
  else if neutralSigns.contains c then .neutral
  else if rightToLeftBlocks.contains c then .rightToLeft
  else .leftToRight

/-- Whether a character makes a text one of two directions. There are none below U+0590. -/
def isRightToLeft (c : Char) : Bool :=
  0x590 ≤ c.toNat && (direction c == .rightToLeft || direction c == .arabicDigit)

/-! ## Joining -/

/-- Characters that connect on both sides. -/
def dualJoining : CharSet := .ofLines
  ["0620 0626 0628 062A-062E 0633-063F 0641-0647 0649-064A 066E-066F 0679-0687 069A-06BF",
   "06C1-06C2 06CC 06CE 06D0-06D1 06FA-06FC 06FF 0712-0714 071A-071D 071F-0727 0729 072B",
   "072D-072E 074E-0758 075C-076A 076D-0770 0772 0775-0777 077A-077F 07CA-07EA 0841-0845 0848",
   "084A-0853 0855 0860 0862-0865 0868 0886 0889-088D 088F 08A0-08A9 08AF-08B0 08B3-08B8",
   "08BA-08C8 1807 1820-1878 1887-18A8 18AA A840-A871 10AC0-10AC4 10AD3-10AD6 10AD8-10ADC",
   "10ADE-10AE0 10AEB-10AEE 10B80 10B82 10B86-10B88 10B8A-10B8B 10B8D 10B90 10BAD-10BAE",
   "10D01-10D21 10D23 10EC3-10EC4 10EC6-10EC7 10F30-10F32 10F34-10F44 10F51-10F53 10F70-10F73",
   "10F76-10F81 10FB0 10FB2-10FB3 10FB8 10FBB-10FBC 10FBE-10FBF 10FC1 10FC4 10FCA 1E922-1E943"]

/-- Characters that connect with the one before them only. -/
def rightJoining : CharSet := .ofLines
  ["0622-0625 0627 0629 062F-0632 0648 0671-0673 0688-0699 06C0 06C3-06CB 06CD 06CF 06D2-06D3",
   "06D5 06EE-06EF 0710 0715-0719 071E 0728 072A 072C 072F 074D 0759-075B 076B-076C 0771",
   "0773-0774 0778-0779 0840 0846-0847 0849 0854 0856-0858 0867 0869-0882 088E 08AA-08AC 08AE",
   "08B1-08B2 08B9 10AC5 10AC7 10AC9-10ACA 10ACE-10AD2 10ADD 10AE1 10AE4 10AEF 10B81 10B83-10B85",
   "10B89 10B8C 10B8E-10B8F 10B91 10BA9-10BAC 10D22 10EC2 10F33 10F54 10F74-10F75 10FB4-10FB6",
   "10FB9-10FBA 10FBD 10FC2-10FC3 10FC9"]

/-- Characters that connect with the one after them only. -/
def leftJoining : CharSet := .ofLines
  ["A872 10ACD 10AD7 10D00 10FCB"]

def joinsNext (c : Char) : Bool := dualJoining.contains c || leftJoining.contains c

def joinsPrevious (c : Char) : Bool := dualJoining.contains c || rightJoining.contains c

/-- Whether characters connect across this one. -/
def isTransparent (c : Char) : Bool := isNonspacing c || c == Char.ofNat 0x1E94B

end Excerpt.Text
