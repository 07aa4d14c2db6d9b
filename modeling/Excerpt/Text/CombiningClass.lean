import Excerpt.Text.CharTable

/-! Combining classes: where marks stand around their base. Marks of different classes do not touch,
so their order has no meaning. -/
namespace Excerpt.Text

/-- The characters of each combining class but zero. -/
def combiningClasses : List (Nat × CharSet) :=
  [(1, .ofLines
     ["0334-0338 1CD4 1CE2-1CE8 20D2-20D3 20D8-20DA 20E5-20E6 20EA-20EB 10A39 16AF0-16AF4",
      "1BC9E 1D167-1D169"]),
   (6, .ofLines ["16FF0-16FF1"]),
   (7, .ofLines
     ["093C 09BC 0A3C 0ABC 0B3C 0C3C 0CBC 1037 1B34 1BE6 1C37 A9B3 110BA 11173 111CA 11236",
      "112E9 1133B-1133C 11446 114C3 115C0 116B7 1183A 11943 11D42 1E94A"]),
   (8, .ofLines ["3099-309A"]),
   (9, .ofLines
     ["094D 09CD 0A4D 0ACD 0B4D 0BCD 0C4D 0CCD 0D3B-0D3C 0D4D 0DCA 0E3A 0EBA 0F84 1039-103A",
      "1714-1715 1734 17D2 1A60 1B44 1BAA-1BAB 1BF2-1BF3 2D7F A806 A82C A8C4 A953 A9C0 AAF6",
      "ABED 10A3F 11046 11070 1107F 110B9 11133-11134 111C0 11235 112EA 1134D 113CE-113D0",
      "11442 114C2 115BF 1163F 116B6 1172B 11839 1193D-1193E 119E0 11A34 11A47 11A99 11C3F",
      "11D44-11D45 11D97 11F41-11F42 1612F"]),
   (10, .ofLines ["05B0"]),
   (11, .ofLines ["05B1"]),
   (12, .ofLines ["05B2"]),
   (13, .ofLines ["05B3"]),
   (14, .ofLines ["05B4"]),
   (15, .ofLines ["05B5"]),
   (16, .ofLines ["05B6"]),
   (17, .ofLines ["05B7"]),
   (18, .ofLines ["05B8 05C7"]),
   (19, .ofLines ["05B9-05BA"]),
   (20, .ofLines ["05BB"]),
   (21, .ofLines ["05BC"]),
   (22, .ofLines ["05BD"]),
   (23, .ofLines ["05BF"]),
   (24, .ofLines ["05C1"]),
   (25, .ofLines ["05C2"]),
   (26, .ofLines ["FB1E"]),
   (27, .ofLines ["064B 08F0"]),
   (28, .ofLines ["064C 08F1"]),
   (29, .ofLines ["064D 08F2"]),
   (30, .ofLines ["0618 064E"]),
   (31, .ofLines ["0619 064F"]),
   (32, .ofLines ["061A 0650"]),
   (33, .ofLines ["0651"]),
   (34, .ofLines ["0652"]),
   (35, .ofLines ["0670"]),
   (36, .ofLines ["0711"]),
   (84, .ofLines ["0C55"]),
   (91, .ofLines ["0C56"]),
   (103, .ofLines ["0E38-0E39"]),
   (107, .ofLines ["0E48-0E4B"]),
   (118, .ofLines ["0EB8-0EB9"]),
   (122, .ofLines ["0EC8-0ECB"]),
   (129, .ofLines ["0F71"]),
   (130, .ofLines ["0F72 0F7A-0F7D 0F80"]),
   (132, .ofLines ["0F74"]),
   (202, .ofLines ["0321-0322 0327-0328 1DD0"]),
   (214, .ofLines ["1DCE"]),
   (216, .ofLines ["031B 0F39 1D165-1D166 1D16E-1D172"]),
   (218, .ofLines ["1DFA 302A"]),
   (220, .ofLines
     ["0316-0319 031C-0320 0323-0326 0329-0333 0339-033C 0347-0349 034D-034E 0353-0356",
      "0359-035A 0591 0596 059B 05A2-05A7 05AA 05C5 0655-0656 065C 065F 06E3 06EA 06ED 0731",
      "0734 0737-0739 073B-073C 073E 0742 0744 0746 0748 07F2 07FD 0859-085B 0899-089B",
      "08CF-08D3 08E3 08E6 08E9 08ED-08EF 08F6 08F9-08FA 0952 0F18-0F19 0F35 0F37 0FC6 108D",
      "193B 1A18 1A7F 1AB5-1ABA 1ABD 1ABF-1AC0 1AC3-1AC4 1ACA 1ADD 1AE6 1B6C 1CD5-1CD9",
      "1CDC-1CDF 1CED 1DC2 1DCA 1DCF 1DF9 1DFD 1DFF 20E8 20EC-20EF A92B-A92D AAB4 FE27-FE2D",
      "101FD 102E0 10A0D 10A3A 10AE6 10EFA-10EFB 10EFD-10EFF 10F46-10F47 10F4B 10F4D-10F50",
      "10F83 10F85 1D17B-1D182 1D18A-1D18B 1E4EE 1E5EF 1E8D0-1E8D6"]),
   (222, .ofLines ["059A 05AD 1939 302D"]),
   (224, .ofLines ["302E-302F"]),
   (226, .ofLines ["1D16D"]),
   (228, .ofLines ["05AE 18A9 1DF7-1DF8 302B"]),
   (230, .ofLines
     ["0300-0314 033D-033F 0342 0346 034A-034C 0350-0352 0357 035B 0363-036F 0483-0487",
      "0592-0595 0597-0599 059C-05A1 05A8-05A9 05AB-05AC 05AF 05C4 0610-0617 0653-0654",
      "0657-065B 065D-065E 06D6-06DC 06DF-06E2 06E4 06E7-06E8 06EB-06EC 0730 0732-0733",
      "0735-0736 073A 073D 073F-0741 0743 0745 0747 0749-074A 07EB-07F1 07F3 0816-0819",
      "081B-0823 0825-0827 0829-082D 0897-0898 089C-089F 08CA-08CE 08D4-08E1 08E4-08E5",
      "08E7-08E8 08EA-08EC 08F3-08F5 08F7-08F8 08FB-08FF 0951 0953-0954 09FE 0F82-0F83",
      "0F86-0F87 135D-135F 17DD 193A 1A17 1A75-1A7C 1AB0-1AB4 1ABB-1ABC 1AC1-1AC2 1AC5-1AC9",
      "1ACB-1ADC 1AE0-1AE5 1AE7-1AEA 1B6B 1B6D-1B73 1CD0-1CD2 1CDA-1CDB 1CE0 1CF4 1CF8-1CF9",
      "1DC0-1DC1 1DC3-1DC9 1DCB-1DCC 1DD1-1DF5 1DFB 1DFE 20D0-20D1 20D4-20D7 20DB-20DC 20E1",
      "20E7 20E9 20F0 2CEF-2CF1 2DE0-2DFF A66F A674-A67D A69E-A69F A6F0-A6F1 A8E0-A8F1 AAB0",
      "AAB2-AAB3 AAB7-AAB8 AABE-AABF AAC1 FE20-FE26 FE2E-FE2F 10376-1037A 10A0F 10A38 10AE5",
      "10D24-10D27 10D69-10D6D 10EAB-10EAC 10F48-10F4A 10F4C 10F82 10F84 11100-11102",
      "11366-1136C 11370-11374 1145E 16B30-16B36 1D185-1D189 1D1AA-1D1AD 1D242-1D244",
      "1E000-1E006 1E008-1E018 1E01B-1E021 1E023-1E024 1E026-1E02A 1E08F 1E130-1E136 1E2AE",
      "1E2EC-1E2EF 1E4EF 1E5EE 1E6E3 1E6E6 1E6EE-1E6EF 1E6F5 1E944-1E949"]),
   (232, .ofLines ["0315 031A 0358 1DF6 302C 1E4EC-1E4ED"]),
   (233, .ofLines ["035C 035F 0362 1DFC"]),
   (234, .ofLines ["035D-035E 0360-0361 1AEB 1DCD"]),
   (240, .ofLines ["0345"])]

/-- The combining class of a character: zero unless it is a mark whose place the others of its kind
compete for. There are none below U+0300. -/
def combiningClass (c : Char) : Nat :=
  if c.toNat < 0x300 then 0
  else ((combiningClasses.find? fun entry => entry.2.contains c).map Prod.fst).getD 0

/-- Whether a mark takes the vowel from the letter before it. -/
def isVirama (c : Char) : Bool := combiningClass c == 9

end Excerpt.Text
