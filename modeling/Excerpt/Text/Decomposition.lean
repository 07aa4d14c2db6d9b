import Excerpt.Text.CharTable

/-! Canonical decompositions: the sequence of a base and marks that a character is equivalent to. -/
namespace Excerpt.Text

/-- Characters that join a base with its marks, fully decomposed, but for the syllables of Hangul.
-/
def composites : CharMap := .ofLines
  ["00C0:0041.0300,0041.0301,0041.0302,0041.0303,0041.0308,0041.030A",
   "00C7:0043.0327,0045.0300,0045.0301,0045.0302,0045.0308,0049.0300,0049.0301,0049.0302",
   "00CF:0049.0308 00D1:004E.0303,004F.0300,004F.0301,004F.0302,004F.0303,004F.0308",
   "00D9:0055.0300,0055.0301,0055.0302,0055.0308,0059.0301",
   "00E0:0061.0300,0061.0301,0061.0302,0061.0303,0061.0308,0061.030A",
   "00E7:0063.0327,0065.0300,0065.0301,0065.0302,0065.0308,0069.0300,0069.0301,0069.0302",
   "00EF:0069.0308 00F1:006E.0303,006F.0300,006F.0301,006F.0302,006F.0303,006F.0308",
   "00F9:0075.0300,0075.0301,0075.0302,0075.0308,0079.0301",
   "00FF:0079.0308,0041.0304,0061.0304,0041.0306,0061.0306,0041.0328,0061.0328,0043.0301",
   "0107:0063.0301,0043.0302,0063.0302,0043.0307,0063.0307,0043.030C,0063.030C,0044.030C",
   "010F:0064.030C",
   "0112:0045.0304,0065.0304,0045.0306,0065.0306,0045.0307,0065.0307,0045.0328,0065.0328",
   "011A:0045.030C,0065.030C,0047.0302,0067.0302,0047.0306,0067.0306,0047.0307,0067.0307",
   "0122:0047.0327,0067.0327,0048.0302,0068.0302",
   "0128:0049.0303,0069.0303,0049.0304,0069.0304,0049.0306,0069.0306,0049.0328,0069.0328",
   "0130:0049.0307 0134:004A.0302,006A.0302,004B.0327,006B.0327",
   "0139:004C.0301,006C.0301,004C.0327,006C.0327,004C.030C,006C.030C",
   "0143:004E.0301,006E.0301,004E.0327,006E.0327,004E.030C,006E.030C",
   "014C:004F.0304,006F.0304,004F.0306,006F.0306,004F.030B,006F.030B",
   "0154:0052.0301,0072.0301,0052.0327,0072.0327,0052.030C,0072.030C,0053.0301,0073.0301",
   "015C:0053.0302,0073.0302,0053.0327,0073.0327,0053.030C,0073.030C,0054.0327,0074.0327",
   "0164:0054.030C,0074.030C",
   "0168:0055.0303,0075.0303,0055.0304,0075.0304,0055.0306,0075.0306,0055.030A,0075.030A",
   "0170:0055.030B,0075.030B,0055.0328,0075.0328,0057.0302,0077.0302,0059.0302,0079.0302",
   "0178:0059.0308,005A.0301,007A.0301,005A.0307,007A.0307,005A.030C,007A.030C",
   "01A0:004F.031B,006F.031B 01AF:0055.031B,0075.031B",
   "01CD:0041.030C,0061.030C,0049.030C,0069.030C,004F.030C,006F.030C,0055.030C,0075.030C",
   "01D5:0055.0308.0304,0075.0308.0304,0055.0308.0301,0075.0308.0301,0055.0308.030C",
   "01DA:0075.0308.030C,0055.0308.0300,0075.0308.0300",
   "01DE:0041.0308.0304,0061.0308.0304,0041.0307.0304,0061.0307.0304,00C6.0304,00E6.0304",
   "01E6:0047.030C,0067.030C,004B.030C,006B.030C,004F.0328,006F.0328,004F.0328.0304",
   "01ED:006F.0328.0304,01B7.030C,0292.030C,006A.030C 01F4:0047.0301,0067.0301",
   "01F8:004E.0300,006E.0300,0041.030A.0301,0061.030A.0301,00C6.0301,00E6.0301,00D8.0301",
   "01FF:00F8.0301,0041.030F,0061.030F,0041.0311,0061.0311,0045.030F,0065.030F,0045.0311",
   "0207:0065.0311,0049.030F,0069.030F,0049.0311,0069.0311,004F.030F,006F.030F,004F.0311",
   "020F:006F.0311,0052.030F,0072.030F,0052.0311,0072.0311,0055.030F,0075.030F,0055.0311",
   "0217:0075.0311,0053.0326,0073.0326,0054.0326,0074.0326 021E:0048.030C,0068.030C",
   "0226:0041.0307,0061.0307,0045.0327,0065.0327,004F.0308.0304,006F.0308.0304",
   "022C:004F.0303.0304,006F.0303.0304,004F.0307,006F.0307,004F.0307.0304,006F.0307.0304",
   "0232:0059.0304,0079.0304 0385:00A8.0301,0391.0301 0388:0395.0301,0397.0301,0399.0301",
   "038C:039F.0301 038E:03A5.0301,03A9.0301,03B9.0308.0301",
   "03AA:0399.0308,03A5.0308,03B1.0301,03B5.0301,03B7.0301,03B9.0301,03C5.0308.0301",
   "03CA:03B9.0308,03C5.0308,03BF.0301,03C5.0301,03C9.0301 03D3:03D2.0301,03D2.0308",
   "0400:0415.0300,0415.0308 0403:0413.0301 0407:0406.0308 040C:041A.0301,0418.0300,0423.0306",
   "0419:0418.0306 0439:0438.0306 0450:0435.0300,0435.0308 0453:0433.0301 0457:0456.0308",
   "045C:043A.0301,0438.0300,0443.0306 0476:0474.030F,0475.030F 04C1:0416.0306,0436.0306",
   "04D0:0410.0306,0430.0306,0410.0308,0430.0308 04D6:0415.0306,0435.0306",
   "04DA:04D8.0308,04D9.0308,0416.0308,0436.0308,0417.0308,0437.0308",
   "04E2:0418.0304,0438.0304,0418.0308,0438.0308,041E.0308,043E.0308",
   "04EA:04E8.0308,04E9.0308,042D.0308,044D.0308,0423.0304,0443.0304,0423.0308,0443.0308",
   "04F2:0423.030B,0443.030B,0427.0308,0447.0308 04F8:042B.0308,044B.0308",
   "0622:0627.0653,0627.0654,0648.0654,0627.0655,064A.0654 06C0:06D5.0654 06C2:06C1.0654",
   "06D3:06D2.0654 0929:0928.093C 0931:0930.093C 0934:0933.093C 09CB:09C7.09BE,09C7.09D7",
   "0B48:0B47.0B56 0B4B:0B47.0B3E,0B47.0B57 0B94:0B92.0BD7 0BCA:0BC6.0BBE,0BC7.0BBE,0BC6.0BD7",
   "0C48:0C46.0C56 0CC0:0CBF.0CD5 0CC7:0CC6.0CD5,0CC6.0CD6 0CCA:0CC6.0CC2,0CC6.0CC2.0CD5",
   "0D4A:0D46.0D3E,0D47.0D3E,0D46.0D57 0DDA:0DD9.0DCA 0DDC:0DD9.0DCF,0DD9.0DCF.0DCA,0DD9.0DDF",
   "1026:1025.102E 1B06:1B05.1B35 1B08:1B07.1B35 1B0A:1B09.1B35 1B0C:1B0B.1B35 1B0E:1B0D.1B35",
   "1B12:1B11.1B35 1B3B:1B3A.1B35 1B3D:1B3C.1B35 1B40:1B3E.1B35,1B3F.1B35 1B43:1B42.1B35",
   "1E00:0041.0325,0061.0325,0042.0307,0062.0307,0042.0323,0062.0323,0042.0331,0062.0331",
   "1E08:0043.0327.0301,0063.0327.0301,0044.0307,0064.0307,0044.0323,0064.0323,0044.0331",
   "1E0F:0064.0331,0044.0327,0064.0327,0044.032D,0064.032D,0045.0304.0300,0065.0304.0300",
   "1E16:0045.0304.0301,0065.0304.0301,0045.032D,0065.032D,0045.0330,0065.0330",
   "1E1C:0045.0327.0306,0065.0327.0306,0046.0307,0066.0307,0047.0304,0067.0304,0048.0307",
   "1E23:0068.0307,0048.0323,0068.0323,0048.0308,0068.0308,0048.0327,0068.0327,0048.032E",
   "1E2B:0068.032E,0049.0330,0069.0330,0049.0308.0301,0069.0308.0301,004B.0301,006B.0301",
   "1E32:004B.0323,006B.0323,004B.0331,006B.0331,004C.0323,006C.0323,004C.0323.0304",
   "1E39:006C.0323.0304,004C.0331,006C.0331,004C.032D,006C.032D,004D.0301,006D.0301",
   "1E40:004D.0307,006D.0307,004D.0323,006D.0323,004E.0307,006E.0307,004E.0323,006E.0323",
   "1E48:004E.0331,006E.0331,004E.032D,006E.032D,004F.0303.0301,006F.0303.0301",
   "1E4E:004F.0303.0308,006F.0303.0308,004F.0304.0300,006F.0304.0300,004F.0304.0301",
   "1E53:006F.0304.0301,0050.0301,0070.0301,0050.0307,0070.0307,0052.0307,0072.0307",
   "1E5A:0052.0323,0072.0323,0052.0323.0304,0072.0323.0304,0052.0331,0072.0331,0053.0307",
   "1E61:0073.0307,0053.0323,0073.0323,0053.0301.0307,0073.0301.0307,0053.030C.0307",
   "1E67:0073.030C.0307,0053.0323.0307,0073.0323.0307,0054.0307,0074.0307,0054.0323",
   "1E6D:0074.0323,0054.0331,0074.0331,0054.032D,0074.032D,0055.0324,0075.0324,0055.0330",
   "1E75:0075.0330,0055.032D,0075.032D,0055.0303.0301,0075.0303.0301,0055.0304.0308",
   "1E7B:0075.0304.0308,0056.0303,0076.0303,0056.0323,0076.0323,0057.0300,0077.0300",
   "1E82:0057.0301,0077.0301,0057.0308,0077.0308,0057.0307,0077.0307,0057.0323,0077.0323",
   "1E8A:0058.0307,0078.0307,0058.0308,0078.0308,0059.0307,0079.0307,005A.0302,007A.0302",
   "1E92:005A.0323,007A.0323,005A.0331,007A.0331,0068.0331,0074.0308,0077.030A,0079.030A",
   "1E9B:017F.0307 1EA0:0041.0323,0061.0323,0041.0309,0061.0309,0041.0302.0301,0061.0302.0301",
   "1EA6:0041.0302.0300,0061.0302.0300,0041.0302.0309,0061.0302.0309,0041.0302.0303",
   "1EAB:0061.0302.0303,0041.0323.0302,0061.0323.0302,0041.0306.0301,0061.0306.0301",
   "1EB0:0041.0306.0300,0061.0306.0300,0041.0306.0309,0061.0306.0309,0041.0306.0303",
   "1EB5:0061.0306.0303,0041.0323.0306,0061.0323.0306,0045.0323,0065.0323,0045.0309",
   "1EBB:0065.0309,0045.0303,0065.0303,0045.0302.0301,0065.0302.0301,0045.0302.0300",
   "1EC1:0065.0302.0300,0045.0302.0309,0065.0302.0309,0045.0302.0303,0065.0302.0303",
   "1EC6:0045.0323.0302,0065.0323.0302,0049.0309,0069.0309,0049.0323,0069.0323,004F.0323",
   "1ECD:006F.0323,004F.0309,006F.0309,004F.0302.0301,006F.0302.0301,004F.0302.0300",
   "1ED3:006F.0302.0300,004F.0302.0309,006F.0302.0309,004F.0302.0303,006F.0302.0303",
   "1ED8:004F.0323.0302,006F.0323.0302,004F.031B.0301,006F.031B.0301,004F.031B.0300",
   "1EDD:006F.031B.0300,004F.031B.0309,006F.031B.0309,004F.031B.0303,006F.031B.0303",
   "1EE2:004F.031B.0323,006F.031B.0323,0055.0323,0075.0323,0055.0309,0075.0309",
   "1EE8:0055.031B.0301,0075.031B.0301,0055.031B.0300,0075.031B.0300,0055.031B.0309",
   "1EED:0075.031B.0309,0055.031B.0303,0075.031B.0303,0055.031B.0323,0075.031B.0323",
   "1EF2:0059.0300,0079.0300,0059.0323,0079.0323,0059.0309,0079.0309,0059.0303,0079.0303",
   "1F00:03B1.0313,03B1.0314,03B1.0313.0300,03B1.0314.0300,03B1.0313.0301,03B1.0314.0301",
   "1F06:03B1.0313.0342,03B1.0314.0342,0391.0313,0391.0314,0391.0313.0300,0391.0314.0300",
   "1F0C:0391.0313.0301,0391.0314.0301,0391.0313.0342,0391.0314.0342,03B5.0313,03B5.0314",
   "1F12:03B5.0313.0300,03B5.0314.0300,03B5.0313.0301,03B5.0314.0301",
   "1F18:0395.0313,0395.0314,0395.0313.0300,0395.0314.0300,0395.0313.0301,0395.0314.0301",
   "1F20:03B7.0313,03B7.0314,03B7.0313.0300,03B7.0314.0300,03B7.0313.0301,03B7.0314.0301",
   "1F26:03B7.0313.0342,03B7.0314.0342,0397.0313,0397.0314,0397.0313.0300,0397.0314.0300",
   "1F2C:0397.0313.0301,0397.0314.0301,0397.0313.0342,0397.0314.0342,03B9.0313,03B9.0314",
   "1F32:03B9.0313.0300,03B9.0314.0300,03B9.0313.0301,03B9.0314.0301,03B9.0313.0342",
   "1F37:03B9.0314.0342,0399.0313,0399.0314,0399.0313.0300,0399.0314.0300,0399.0313.0301",
   "1F3D:0399.0314.0301,0399.0313.0342,0399.0314.0342,03BF.0313,03BF.0314,03BF.0313.0300",
   "1F43:03BF.0314.0300,03BF.0313.0301,03BF.0314.0301",
   "1F48:039F.0313,039F.0314,039F.0313.0300,039F.0314.0300,039F.0313.0301,039F.0314.0301",
   "1F50:03C5.0313,03C5.0314,03C5.0313.0300,03C5.0314.0300,03C5.0313.0301,03C5.0314.0301",
   "1F56:03C5.0313.0342,03C5.0314.0342 1F59:03A5.0314 1F5B:03A5.0314.0300 1F5D:03A5.0314.0301",
   "1F5F:03A5.0314.0342,03C9.0313,03C9.0314,03C9.0313.0300,03C9.0314.0300,03C9.0313.0301",
   "1F65:03C9.0314.0301,03C9.0313.0342,03C9.0314.0342,03A9.0313,03A9.0314,03A9.0313.0300",
   "1F6B:03A9.0314.0300,03A9.0313.0301,03A9.0314.0301,03A9.0313.0342,03A9.0314.0342",
   "1F70:03B1.0300 1F72:03B5.0300 1F74:03B7.0300 1F76:03B9.0300 1F78:03BF.0300 1F7A:03C5.0300",
   "1F7C:03C9.0300 1F80:03B1.0313.0345,03B1.0314.0345,03B1.0313.0300.0345,03B1.0314.0300.0345",
   "1F84:03B1.0313.0301.0345,03B1.0314.0301.0345,03B1.0313.0342.0345,03B1.0314.0342.0345",
   "1F88:0391.0313.0345,0391.0314.0345,0391.0313.0300.0345,0391.0314.0300.0345",
   "1F8C:0391.0313.0301.0345,0391.0314.0301.0345,0391.0313.0342.0345,0391.0314.0342.0345",
   "1F90:03B7.0313.0345,03B7.0314.0345,03B7.0313.0300.0345,03B7.0314.0300.0345",
   "1F94:03B7.0313.0301.0345,03B7.0314.0301.0345,03B7.0313.0342.0345,03B7.0314.0342.0345",
   "1F98:0397.0313.0345,0397.0314.0345,0397.0313.0300.0345,0397.0314.0300.0345",
   "1F9C:0397.0313.0301.0345,0397.0314.0301.0345,0397.0313.0342.0345,0397.0314.0342.0345",
   "1FA0:03C9.0313.0345,03C9.0314.0345,03C9.0313.0300.0345,03C9.0314.0300.0345",
   "1FA4:03C9.0313.0301.0345,03C9.0314.0301.0345,03C9.0313.0342.0345,03C9.0314.0342.0345",
   "1FA8:03A9.0313.0345,03A9.0314.0345,03A9.0313.0300.0345,03A9.0314.0300.0345",
   "1FAC:03A9.0313.0301.0345,03A9.0314.0301.0345,03A9.0313.0342.0345,03A9.0314.0342.0345",
   "1FB0:03B1.0306,03B1.0304,03B1.0300.0345,03B1.0345,03B1.0301.0345",
   "1FB6:03B1.0342,03B1.0342.0345,0391.0306,0391.0304,0391.0300 1FBC:0391.0345",
   "1FC1:00A8.0342,03B7.0300.0345,03B7.0345,03B7.0301.0345",
   "1FC6:03B7.0342,03B7.0342.0345,0395.0300 1FCA:0397.0300",
   "1FCC:0397.0345,1FBF.0300,1FBF.0301,1FBF.0342,03B9.0306,03B9.0304,03B9.0308.0300",
   "1FD6:03B9.0342,03B9.0308.0342,0399.0306,0399.0304,0399.0300",
   "1FDD:1FFE.0300,1FFE.0301,1FFE.0342,03C5.0306,03C5.0304,03C5.0308.0300",
   "1FE4:03C1.0313,03C1.0314,03C5.0342,03C5.0308.0342,03A5.0306,03A5.0304,03A5.0300",
   "1FEC:03A1.0314,00A8.0300 1FF2:03C9.0300.0345,03C9.0345,03C9.0301.0345",
   "1FF6:03C9.0342,03C9.0342.0345,039F.0300 1FFA:03A9.0300 1FFC:03A9.0345",
   "219A:2190.0338,2192.0338 21AE:2194.0338 21CD:21D0.0338,21D4.0338,21D2.0338 2204:2203.0338",
   "2209:2208.0338 220C:220B.0338 2224:2223.0338 2226:2225.0338 2241:223C.0338 2244:2243.0338",
   "2247:2245.0338 2249:2248.0338 2260:003D.0338 2262:2261.0338",
   "226D:224D.0338,003C.0338,003E.0338,2264.0338,2265.0338 2274:2272.0338,2273.0338",
   "2278:2276.0338,2277.0338 2280:227A.0338,227B.0338 2284:2282.0338,2283.0338",
   "2288:2286.0338,2287.0338 22AC:22A2.0338,22A8.0338,22A9.0338,22AB.0338",
   "22E0:227C.0338,227D.0338,2291.0338,2292.0338 22EA:22B2.0338,22B3.0338,22B4.0338,22B5.0338",
   "304C:304B.3099 304E:304D.3099 3050:304F.3099 3052:3051.3099 3054:3053.3099 3056:3055.3099",
   "3058:3057.3099 305A:3059.3099 305C:305B.3099 305E:305D.3099 3060:305F.3099 3062:3061.3099",
   "3065:3064.3099 3067:3066.3099 3069:3068.3099 3070:306F.3099,306F.309A",
   "3073:3072.3099,3072.309A 3076:3075.3099,3075.309A 3079:3078.3099,3078.309A",
   "307C:307B.3099,307B.309A 3094:3046.3099 309E:309D.3099 30AC:30AB.3099 30AE:30AD.3099",
   "30B0:30AF.3099 30B2:30B1.3099 30B4:30B3.3099 30B6:30B5.3099 30B8:30B7.3099 30BA:30B9.3099",
   "30BC:30BB.3099 30BE:30BD.3099 30C0:30BF.3099 30C2:30C1.3099 30C5:30C4.3099 30C7:30C6.3099",
   "30C9:30C8.3099 30D0:30CF.3099,30CF.309A 30D3:30D2.3099,30D2.309A 30D6:30D5.3099,30D5.309A",
   "30D9:30D8.3099,30D8.309A 30DC:30DB.3099,30DB.309A 30F4:30A6.3099",
   "30F7:30EF.3099,30F0.3099,30F1.3099,30F2.3099 30FE:30FD.3099 105C9:105D2.0307",
   "105E4:105DA.0307 1109A:11099.110BA 1109C:1109B.110BA 110AB:110A5.110BA",
   "1112E:11131.11127,11132.11127 1134B:11347.1133E,11347.11357 11383:11382.113C9",
   "11385:11384.113BB 1138E:1138B.113C2 11391:11390.113C9 113C5:113C2.113C2",
   "113C7:113C2.113B8,113C2.113C9 114BB:114B9.114BA,114B9.114B0 114BE:114B9.114BD",
   "115BA:115B8.115AF,115B9.115AF 11938:11935.11930",
   "16121:1611E.1611E,1611E.16129,1611E.1611F,16129.1611F,1611E.16120,1611E.1611E.1611F",
   "16127:1611E.16129.1611F,1611E.1611E.16120 16D68:16D67.16D67,16D63.16D67,16D63.16D67.16D67"]

/-- Characters that are equivalent to others and never come of joining them. -/
def equivalents : CharMap := .ofLines
  ["0340:0300-0301 0343:0313,0308.0301 0374:02B9 037E:003B 0387:00B7",
   "0958:0915.093C,0916.093C,0917.093C,091C.093C,0921.093C,0922.093C,092B.093C,092F.093C",
   "09DC:09A1.09BC,09A2.09BC 09DF:09AF.09BC 0A33:0A32.0A3C 0A36:0A38.0A3C",
   "0A59:0A16.0A3C,0A17.0A3C,0A1C.0A3C 0A5E:0A2B.0A3C 0B5C:0B21.0B3C,0B22.0B3C 0F43:0F42.0FB7",
   "0F4D:0F4C.0FB7 0F52:0F51.0FB7 0F57:0F56.0FB7 0F5C:0F5B.0FB7 0F69:0F40.0FB5 0F73:0F71.0F72",
   "0F75:0F71.0F74,0FB2.0F80 0F78:0FB3.0F80 0F81:0F71.0F80 0F93:0F92.0FB7 0F9D:0F9C.0FB7",
   "0FA2:0FA1.0FB7 0FA7:0FA6.0FB7 0FAC:0FAB.0FB7 0FB9:0F90.0FB5 1F71:03B1.0301 1F73:03B5.0301",
   "1F75:03B7.0301 1F77:03B9.0301 1F79:03BF.0301 1F7B:03C5.0301 1F7D:03C9.0301 1FBB:0391.0301",
   "1FBE:03B9 1FC9:0395.0301 1FCB:0397.0301 1FD3:03B9.0308.0301 1FDB:0399.0301",
   "1FE3:03C5.0308.0301 1FEB:03A5.0301 1FEE:00A8.0301,0060 1FF9:039F.0301 1FFB:03A9.0301",
   "1FFD:00B4 2000:2002-2003 2126:03A9 212A:004B,0041.030A 2329:3008-3009 2ADC:2ADD.0338",
   "F900:8C48,66F4,8ECA,8CC8,6ED1,4E32,53E5,9F9C,9F9C,5951,91D1,5587,5948,61F6,7669,7F85",
   "F910:863F,87BA,88F8,908F,6A02,6D1B,70D9,73DE,843D,916A,99F1,4E82,5375,6B04,721B,862D",
   "F920:9E1E,5D50,6FEB,85CD,8964,62C9,81D8,881F,5ECA,6717,6D6A,72FC,90CE,4F86,51B7,52DE",
   "F930:64C4,6AD3,7210,76E7,8001,8606,865C,8DEF,9732,9B6F,9DFA,788C,797F,7DA0,83C9,9304",
   "F940:9E7F,8AD6,58DF,5F04,7C60,807E,7262,78CA,8CC2,96F7,58D8,5C62,6A13,6DDA,6F0F,7D2F",
   "F950:7E37,964B,52D2,808B,51DC,51CC,7A1C,7DBE,83F1,9675,8B80,62CF,6A02,8AFE,4E39,5BE7",
   "F960:6012,7387,7570,5317,78FB,4FBF,5FA9,4E0D,6CCC,6578,7D22,53C3,585E,7701,8449,8AAA",
   "F970:6BBA,8FB0,6C88,62FE,82E5,63A0,7565,4EAE,5169,51C9,6881,7CE7,826F,8AD2,91CF,52F5",
   "F980:5442,5973,5EEC,65C5,6FFE,792A,95AD,9A6A,9E97,9ECE,529B,66C6,6B77,8F62,5E74,6190",
   "F990:6200,649A,6F23,7149,7489,79CA,7DF4,806F,8F26,84EE,9023,934A,5217,52A3,54BD,70C8",
   "F9A0:88C2,8AAA,5EC9,5FF5,637B,6BAE,7C3E,7375,4EE4,56F9,5BE7,5DBA,601C,73B2,7469,7F9A",
   "F9B0:8046,9234,96F6,9748,9818,4F8B,79AE,91B4,96B8,60E1,4E86,50DA,5BEE,5C3F,6599,6A02",
   "F9C0:71CE,7642,84FC,907C,9F8D,6688,962E,5289,677B,67F3,6D41,6E9C,7409,7559,786B,7D10",
   "F9D0:985E,516D,622E,9678,502B,5D19,6DEA,8F2A,5F8B,6144,6817,7387,9686,5229,540F,5C65",
   "F9E0:6613,674E,68A8,6CE5,7406,75E2,7F79,88CF,88E1,91CC,96E2,533F,6EBA,541D,71D0,7498",
   "F9F0:85FA,96A3,9C57,9E9F,6797,6DCB,81E8,7ACB,7B20,7C92,72C0,7099,8B58,4EC0,8336,523A",
   "FA00:5207,5EA6,62D3,7CD6,5B85,6D1E,66B4,8F3B,884C,964D,898B,5ED3,5140,55C0 FA10:585A",
   "FA12:6674 FA15:51DE,732A,76CA,793C,795E,7965,798F,9756,7CBE,7FBD FA20:8612 FA22:8AF8",
   "FA25:9038,90FD",
   "FA2A:98EF,98FC,9928,9DB4,90DE,96B7,4FAE,50E7,514D,52C9,52E4,5351,559D,5606,5668,5840",
   "FA3A:58A8,5C64,5C6E,6094,6168,618E,61F2,654F,65E2,6691,6885,6D77,6E1A,6F22,716E,722B",
   "FA4A:7422,7891,793E,7949,7948,7950,7956,795D,798D-798E,7A40,7A81,7BC0,7DF4,7E09,7E41",
   "FA5A:7F72,8005,81ED,8279,8279,8457,8910,8996,8B01,8B39,8CD3,8D08,8FB6,9038,96E3,97FF",
   "FA6A:983B,6075,242EE,8218",
   "FA70:4E26,51B5,5168,4F80,5145,5180,52C7,52FA,559D,5555,5599,55E2,585A,58B3,5944,5954",
   "FA80:5A62,5B28,5ED2,5ED9,5F69,5FAD,60D8,614E,6108,618E,6160,61F2,6234,63C4,641C,6452",
   "FA90:6556,6674,6717,671B,6756,6B79,6BBA,6D41,6EDB,6ECB,6F22,701E,716E,77A7,7235,72AF",
   "FAA0:732A,7471,7506,753B,761D,761F,76CA,76DB,76F4,774A,7740,78CC,7AB1,7BC0,7C7B,7D5B",
   "FAB0:7DF4,7F3E,8005,8352,83EF,8779,8941,8986,8996,8ABF,8AF8,8ACB,8B01,8AFE,8AED,8B39",
   "FAC0:8B8A,8D08,8F38,9072,9199,9276,967C,96E3,9756,97DB,97FF,980B,983B,9B12,9F9C,2284A",
   "FAD0:22844,233D5,3B9D,4018,4039,25249,25CD0,27ED3,9F43,9F8E FB1D:05D9.05B4 FB1F:05F2.05B7",
   "FB2A:05E9.05C1,05E9.05C2,05E9.05BC.05C1,05E9.05BC.05C2,05D0.05B7,05D0.05B8,05D0.05BC",
   "FB31:05D1.05BC,05D2.05BC,05D3.05BC,05D4.05BC,05D5.05BC,05D6.05BC",
   "FB38:05D8.05BC,05D9.05BC,05DA.05BC,05DB.05BC,05DC.05BC FB3E:05DE.05BC",
   "FB40:05E0.05BC,05E1.05BC FB43:05E3.05BC,05E4.05BC",
   "FB46:05E6.05BC,05E7.05BC,05E8.05BC,05E9.05BC,05EA.05BC,05D5.05B9,05D1.05BF,05DB.05BF",
   "FB4E:05E4.05BF",
   "1D15E:1D157.1D165,1D158.1D165,1D158.1D165.1D16E,1D158.1D165.1D16F,1D158.1D165.1D170",
   "1D163:1D158.1D165.1D171,1D158.1D165.1D172",
   "1D1BB:1D1B9.1D165,1D1BA.1D165,1D1B9.1D165.1D16E,1D1BA.1D165.1D16E,1D1B9.1D165.1D16F",
   "1D1C0:1D1BA.1D165.1D16F",
   "2F800:4E3D,4E38,4E41,20122,4F60,4FAE,4FBB,5002,507A,5099,50E7,50CF,349E,2063A,514D,5154",
   "2F810:5164,5177,2051C,34B9,5167,518D,2054B,5197,51A4,4ECC,51AC,51B5,291DF,51F5,5203,34DF",
   "2F820:523B,5246,5272,5277,3515,52C7,52C9,52E4,52FA,5305-5306,5317,5349,5351,535A,5373",
   "2F830:537D,537F,537F,537F,20A2C,7070,53CA,53DF,20B63,53EB,53F1,5406,549E,5438,5448,5468",
   "2F840:54A2,54F6,5510,5553,5563,5584,5584,5599,55AB,55B3,55C2,5716,5606,5717,5651,5674",
   "2F850:5207,58EE,57CE,57F4,580D,578B,5832,5831,58AC,214E4,58F2,58F7,5906,591A,5922,5962",
   "2F860:216A8,216EA,59EC,5A1B,5A27,59D8,5A66,36EE,36FC,5B08,5B3E,5B3E,219C8,5BC3,5BD8,5BE7",
   "2F870:5BF3,21B18,5BFF,5C06,5F53,5C22,3781,5C60,5C6E,5CC0,5C8D,21DE4,5D43,21DE6,5D6E,5D6B",
   "2F880:5D7C,5DE1-5DE2,382F,5DFD,5E28,5E3D,5E69,3862,22183,387C,5EB0,5EB3,5EB6,5ECA,2A392",
   "2F890:5EFE,22331,22331,8201,5F22,5F22,38C7,232B8,261DA,5F62,5F6B,38E3,5F9A,5FCD,5FD7",
   "2F89F:5FF9,6081,393A,391C,6094,226D4,60C7,6148,614C,614E,614C,617A,618E,61B2,61A4,61AF",
   "2F8AF:61DE,61F2,61F6,6210,621B,625D,62B1,62D4,6350,22B0C,633D,62FC,6368,6383,63E4,22BF1",
   "2F8BF:6422,63C5,63A9,3A2E,6469,647E,649D,6477,3A6C,654F,656C,2300A,65E3,66F8,6649,3B19",
   "2F8CF:6691,3B08,3AE4,5192,5195,6700,669C,80AD,43D9,6717,671B,6721,675E,6753,233C3,3B49",
   "2F8DF:67FA,6785,6852,6885,2346D,688E,681F,6914,3B9D,6942,69A3,69EA,6AA8,236A3,6ADB,3C18",
   "2F8EF:6B21,238A7,6B54,3C4E,6B72,6B9F,6BBA-6BBB,23A8D,21D0B,23AFA,6C4E,23CBC,6CBF,6CCD",
   "2F8FE:6C67,6D16,6D3E,6D77,6D41,6D69,6D78,6D85,23D1E,6D34,6E2F,6E6E,3D33,6ECB,6EC7,23ED1",
   "2F90E:6DF9,6F6E,23F5E,23F8E,6FC6,7039,701E,701B,3D96,704A,707D,7077,70AD,20525,7145",
   "2F91D:24263,719C,243AB,7228,7235,7250,24608,7280,7295,24735,24814,737A,738B,3EAC,73A5",
   "2F92C:3EB8,3EB8,7447,745C,7471,7485,74CA,3F1B,7524,24C36,753E,24C92,7570,2219F,7610",
   "2F93B:24FA1,24FB8,25044,3FFC,4008,76F4,250F3,250F2,25119,25133,771E-771F,771F,774A,4039",
   "2F94A:778B,4046,4096,2541D,784E,788C,78CC,40E3,25626,7956,2569A,256C5,798F,79EB,412F",
   "2F959:7A40,7A4A,7A4F,2597C,25AA7,25AA7,7AEE,4202,25BAB,7BC6,7BC9,4227,25C80,7CD2,42A0",
   "2F968:7CE8,7CE3,7D00,25F86,7D63,4301,7DC7,7E02,7E45,4334,26228,26247,4359,262D9,7F7A",
   "2F977:2633E,7F95,7FFA,8005,264DA,26523,8060,265A8,8070,2335F,43D5,80B2,8103,440B,813E",
   "2F986:5AB5,267A7,267B5,23393,2339C,8201,8204,8F9E,446B,8291,828B,829D,52B3,82B1,82B3",
   "2F995:82BD,82E6,26B3C,82E5,831D,8363,83AD,8323,83BD,83E7,8457,8353,83CA,83CC,83DC,26C36",
   "2F9A5:26D6B,26CD5,452B,84F1,84F3,8516,273CA,8564,26F2C,455D,4561,26FB1,270D2,456B,8650",
   "2F9B4:865C,8667,8669,86A9,8688,870E,86E2,8779,8728,876B,8786,45D7,87E1,8801,45F9,8860",
   "2F9C4:8863,27667,88D7,88DE,4635,88FA,34BB,278AE,27966,46BE,46C7,8AA0,8AED,8B8A,8C55",
   "2F9D3:27CA8,8CAB,8CC1,8D1B,8D77,27F2F,20804,8DCB,8DBC,8DF0,208DE,8ED4,8F38,285D2,285ED",
   "2F9E2:9094,90F1,9111,2872E,911B,9238,92D7-92D8,927C,93F9,9415,28BFA,958B,4995,95B7,28D77",
   "2F9F2:49E6,96C3,5DB2,9723,29145,2921A,4A6E,4A76,97E0,2940A,4AB2,29496,980B,980B,9829",
   "2FA01:295B6,98E2,4B33,9929,99A7,99C2,99FE,4BCE,29B30,9B12,9C40,9CFD,4CCE,4CED,9D67,2A0CE",
   "2FA11:4CF8,2A105,2A20E,2A291,9EBB,4D56,9EF9,9EFE,9F05,9F0F,9F16,9F3B,2A600"]

/-! Syllables of Hangul stand in the order of their parts: the leading consonant, the vowel, and the
trailing consonant, which changes fastest and may be missing. -/
namespace Hangul

def firstSyllable : Nat := 0xAC00

def leadBase : Nat := 0x1100

def vowelBase : Nat := 0x1161

/-- One before the first trailing consonant. -/
def trailBase : Nat := 0x11A7

def leadCount : Nat := 19

def vowelCount : Nat := 21

def trailCount : Nat := 28

def syllableCount : Nat := 11172

def parts? (c : Char) : Option (List Char) :=
  let index := c.toNat - firstSyllable
  if firstSyllable ≤ c.toNat && index < syllableCount then
    let lead := Char.ofNat (leadBase + index / (vowelCount * trailCount))
    let vowel := Char.ofNat (vowelBase + index % (vowelCount * trailCount) / trailCount)
    let trail := index % trailCount
    some (if trail == 0 then [lead, vowel] else [lead, vowel, Char.ofNat (trailBase + trail)])
  else none

/-- The syllable of a leading consonant and a vowel, or of a syllable without trailing consonant and
such a consonant. -/
def join? (first second : Char) : Option Char :=
  let lead := first.toNat - leadBase
  let vowel := second.toNat - vowelBase
  let index := first.toNat - firstSyllable
  let trail := second.toNat - trailBase
  if leadBase ≤ first.toNat && lead < leadCount &&
      vowelBase ≤ second.toNat && vowel < vowelCount then
    some (Char.ofNat (firstSyllable + (lead * vowelCount + vowel) * trailCount))
  else if firstSyllable ≤ first.toNat && index < syllableCount && index % trailCount == 0 &&
      0 < trail && trail < trailCount then
    some (Char.ofNat (first.toNat + trail))
  else none

end Hangul

/-- The full decomposition of a character. There are none below U+00C0. -/
def decompose (c : Char) : List Char :=
  if c.toNat < 0xC0 then [c]
  else
    match Hangul.parts? c with
    | some parts => parts
    | none => ((composites.find? c).or (equivalents.find? c)).getD [c]

/-- The character that joins two: the composite that decomposes into what the two do. None joins
with a character below U+0300. -/
def composite? (base mark : Char) : Option Char :=
  if mark.toNat < 0x300 then none
  else
    (Hangul.join? base mark).or
      ((composites.preimages (decompose base ++ [mark])).head?.map Char.ofNat)

end Excerpt.Text
