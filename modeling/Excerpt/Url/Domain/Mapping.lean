import Excerpt.Text.CharTable

/-! What domain names make of characters: which they keep, leave out, replace or refuse. -/
namespace Excerpt.Url.Domain

open Text (CharMap CharSet)

/-- Characters that stand for others: capital letters for small ones, and variants of width, shape
or place for the plain character. What is left to the normal form is not listed. -/
def replaced : CharMap := .ofLines
  ["0041:0061-007A 00A0:0020 00A8:0020.0308 00AA:0061 00AF:0020.0304",
   "00B2:0032-0033,0020.0301,03BC 00B8:0020.0327,0031,006F",
   "00BC:0031.2044.0034,0031.2044.0032,0033.2044.0034 00C0:00E0-00F6 00D8:00F8-00FE",
   "0100/0101-012F 0130:0069.0307 0132:0069.006A,0069.006A,0135 0136:0137 0139/013A-013E",
   "013F:006C.00B7,006C.00B7,0142 0143/0144-0148 0149:02BC.006E,014B 014C/014D-0177",
   "0178:00FF,017A 017B/017C-017E 017F:0073 0181:0253,0183 0184:0185 0186:0254,0188",
   "0189:0256-0257,018C 018E:01DD,0259,025B,0192 0193:0260,0263 0196:0269,0268,0199",
   "019C:026F,0272 019F:0275,01A1 01A2/01A3-01A5 01A6:0280,01A8 01A9:0283 01AC:01AD",
   "01AE:0288,01B0 01B1:028A-028B,01B4 01B5:01B6 01B7:0292,01B9 01BC:01BD",
   "01C4:0064.017E,0064.017E,0064.017E,006C.006A,006C.006A,006C.006A,006E.006A,006E.006A",
   "01CC:006E.006A,01CE 01CF/01D0-01DC 01DE/01DF-01EF 01F1:0064.007A,0064.007A,0064.007A,01F5",
   "01F6:0195,01BF,01F9 01FA/01FB-021F 0220:019E 0222/0223-0233 023A:2C65,023C 023D:019A,2C66",
   "0241:0242 0243:0180,0289,028C,0247 0248/0249-024F",
   "02B0:0068,0266,006A,0072,0279,027B,0281,0077,0079",
   "02D8:0020.0306,0020.0307,0020.030A,0020.0328,0020.0303,0020.030B",
   "02E0:0263,006C,0073,0078,0295 0345:03B9 0370/0371-0373 0376:0377 037A:0020.03B9 037F:03F3",
   "0384:0020.0301,0020.0308.0301,03AC 0388:03AD-03AF 038C:03CC 038E:03CD-03CE 0391:03B1-03C1",
   "03A3:03C3-03CB 03CF:03D7,03B2,03B8,03C5,03CD,03CB,03C6,03C0 03D8/03D9-03EF",
   "03F0:03BA,03C1,03C3 03F4:03B8,03B5 03F7:03F8 03F9:03C3,03FB",
   "03FD:037B-037D,0450-045F,0430-044F 0460/0461-0481 048A/048B-04BF 04C0:04CF,04C2",
   "04C3/04C4-04CE 04D0/04D1-052F 0531:0561-0586 0587:0565.0582 058B:056B",
   "0675:0627.0674,0648.0674,06C7.0674,064A.0674 0E33:0E4D.0E32 0EB3:0ECD.0EB2",
   "0EDC:0EAB.0E99,0EAB.0EA1 0F0C:0F0B 0F77:0FB2.0F71.0F80 0F79:0FB3.0F71.0F80 10A0:2D00-2D25",
   "10C7:2D27 10CD:2D2D 10FC:10DC 13F8:13F0-13F5",
   "1C80:0432,0434,043E,0441-0442,0442,044A,0463,A64B,1C8A 1C90:10D0-10FA 1CBD:10FD-10FF",
   "1D2C:0061,00E6,0062 1D30:0064-0065,01DD,0067-006E",
   "1D3C:006F,0223,0070,0072,0074-0075,0077,0061,0250-0251,1D02,0062,0064-0065,0259",
   "1D4B:025B-025C,0067",
   "1D4F:006B,006D,014B,006F,0254,1D16-1D17,0070,0074-0075,1D1D,026F,0076,1D25,03B2-03B4",
   "1D60:03C6-03C7,0069,0072,0075-0076,03B2-03B3,03C1,03C6-03C7 1D78:043D",
   "1D9B:0252,0063,0255,00F0,025C,0066,025F,0261,0265,0268-026A,1D7B,029D,026D,1D85,029F",
   "1DAC:0271,0270,0272-0275,0278,0282-0283,01AB,0289-028A,1D1C,028B-028C,007A,0290-0292",
   "1DBF:03B8 1E00/1E01-1E95 1E9A:0061.02BE,1E61 1E9E:00DF 1EA0/1EA1-1EFF 1F08:1F00-1F07",
   "1F18:1F10-1F15 1F28:1F20-1F27 1F38:1F30-1F37 1F48:1F40-1F45 1F59/1F51-1F57 1F68:1F60-1F67",
   "1F80:1F00.03B9,1F01.03B9,1F02.03B9,1F03.03B9,1F04.03B9,1F05.03B9,1F06.03B9,1F07.03B9",
   "1F88:1F00.03B9,1F01.03B9,1F02.03B9,1F03.03B9,1F04.03B9,1F05.03B9,1F06.03B9,1F07.03B9",
   "1F90:1F20.03B9,1F21.03B9,1F22.03B9,1F23.03B9,1F24.03B9,1F25.03B9,1F26.03B9,1F27.03B9",
   "1F98:1F20.03B9,1F21.03B9,1F22.03B9,1F23.03B9,1F24.03B9,1F25.03B9,1F26.03B9,1F27.03B9",
   "1FA0:1F60.03B9,1F61.03B9,1F62.03B9,1F63.03B9,1F64.03B9,1F65.03B9,1F66.03B9,1F67.03B9",
   "1FA8:1F60.03B9,1F61.03B9,1F62.03B9,1F63.03B9,1F64.03B9,1F65.03B9,1F66.03B9,1F67.03B9",
   "1FB2:1F70.03B9,03B1.03B9,03AC.03B9 1FB7:1FB6.03B9,1FB0-1FB1,1F70,03AC,03B1.03B9,0020.0313",
   "1FBF:0020.0313,0020.0342,0020.0308.0342,1F74.03B9,03B7.03B9,03AE.03B9",
   "1FC7:1FC6.03B9,1F72,03AD,1F74,03AE,03B7.03B9,0020.0313.0300,0020.0313.0301",
   "1FCF:0020.0313.0342 1FD8:1FD0-1FD1,1F76,03AF",
   "1FDD:0020.0314.0300,0020.0314.0301,0020.0314.0342",
   "1FE8:1FE0-1FE1,1F7A,03CD,1FE5,0020.0308.0300,0020.0308.0301",
   "1FF2:1F7C.03B9,03C9.03B9,03CE.03B9",
   "1FF7:1FF6.03B9,1F78,03CC,1F7C,03CE,03C9.03B9,0020.0301,0020.0314",
   "2000:0020,0020,0020,0020,0020,0020,0020,0020,0020,0020,0020 2011:2010 2017:0020.0333",
   "202F:0020 2033:2032.2032,2032.2032.2032 2036:2035.2035,2035.2035.2035 203C:0021.0021",
   "203E:0020.0305 2047:003F.003F,003F.0021,0021.003F 2057:2032.2032.2032.2032 205F:0020",
   "2070:0030,0069",
   "2074:0034-0039,002B,2212,003D,0028-0029,006E,0030-0039,002B,2212,003D,0028-0029",
   "2090:0061,0065,006F,0078,0259,0068,006B-006E,0070,0073-0074,0077,0079-007A 20A8:0072.0073",
   "2100:0061.002F.0063,0061.002F.0073,0063,00B0.0063 2105:0063.002F.006F,0063.002F.0075,025B",
   "2109:00B0.0066,0067-0068,0068,0068,0068,0127,0069,0069,006C,006C 2115:006E,006E.006F",
   "2119:0070-0072,0072,0072 2120:0073.006D,0074.0065.006C,0074.006D 2124:007A 2126:03C9",
   "2128:007A 212A:006B,00E5,0062-0063 212F:0065,0065-0066,214E,006D,006F,05D0-05D3,0069",
   "213B:0066.0061.0078,03C0,03B3,03B3,03C0,2211 2145:0064,0064-0065,0069-006A",
   "2150:0031.2044.0037,0031.2044.0039,0031.2044.0031.0030,0031.2044.0033,0032.2044.0033",
   "2155:0031.2044.0035,0032.2044.0035,0033.2044.0035,0034.2044.0035,0031.2044.0036",
   "215A:0035.2044.0036,0031.2044.0038,0033.2044.0038,0035.2044.0038,0037.2044.0038",
   "215F:0031.2044,0069,0069.0069,0069.0069.0069,0069.0076,0076,0076.0069,0076.0069.0069",
   "2167:0076.0069.0069.0069,0069.0078,0078,0078.0069,0078.0069.0069,006C,0063-0064,006D",
   "2170:0069,0069.0069,0069.0069.0069,0069.0076,0076,0076.0069,0076.0069.0069",
   "2177:0076.0069.0069.0069,0069.0078,0078,0078.0069,0078.0069.0069,006C,0063-0064,006D",
   "2183:2184 2189:0030.2044.0033 222C:222B.222B,222B.222B.222B 222F:222E.222E,222E.222E.222E",
   "2460:0031-0039,0031.0030,0031.0031,0031.0032,0031.0033,0031.0034,0031.0035,0031.0036",
   "2470:0031.0037,0031.0038,0031.0039,0032.0030,0028.0031.0029,0028.0032.0029",
   "2476:0028.0033.0029,0028.0034.0029,0028.0035.0029,0028.0036.0029,0028.0037.0029",
   "247B:0028.0038.0029,0028.0039.0029,0028.0031.0030.0029,0028.0031.0031.0029",
   "247F:0028.0031.0032.0029,0028.0031.0033.0029,0028.0031.0034.0029,0028.0031.0035.0029",
   "2483:0028.0031.0036.0029,0028.0031.0037.0029,0028.0031.0038.0029,0028.0031.0039.0029",
   "2487:0028.0032.0030.0029",
   "249C:0028.0061.0029,0028.0062.0029,0028.0063.0029,0028.0064.0029,0028.0065.0029",
   "24A1:0028.0066.0029,0028.0067.0029,0028.0068.0029,0028.0069.0029,0028.006A.0029",
   "24A6:0028.006B.0029,0028.006C.0029,0028.006D.0029,0028.006E.0029,0028.006F.0029",
   "24AB:0028.0070.0029,0028.0071.0029,0028.0072.0029,0028.0073.0029,0028.0074.0029",
   "24B0:0028.0075.0029,0028.0076.0029,0028.0077.0029,0028.0078.0029,0028.0079.0029",
   "24B5:0028.007A.0029,0061-007A,0061-007A,0030 2A0C:222B.222B.222B.222B",
   "2A74:003A.003A.003D,003D.003D,003D.003D.003D 2C00:2C30-2C5F 2C60:2C61 2C62:026B,1D7D,027D",
   "2C67/2C68-2C6C 2C6D:0251,0271,0250,0252 2C72:2C73 2C75:2C76 2C7C:006A,0076,023F-0240,2C81",
   "2C82/2C83-2CE3 2CEB/2CEC-2CEE 2CF2:2CF3 2D6F:2D61 2E9F:6BCD 2EF3:9F9F",
   "2F00:4E00,4E28,4E36,4E3F,4E59,4E85,4E8C,4EA0,4EBA,513F,5165,516B,5182,5196,51AB,51E0",
   "2F10:51F5,5200,529B,52F9,5315,531A,5338,5341,535C,5369,5382,53B6,53C8,53E3,56D7,571F",
   "2F20:58EB,5902,590A,5915,5927,5973,5B50,5B80,5BF8,5C0F,5C22,5C38,5C6E,5C71,5DDB,5DE5",
   "2F30:5DF1,5DFE,5E72,5E7A,5E7F,5EF4,5EFE,5F0B,5F13,5F50,5F61,5F73,5FC3,6208,6236,624B",
   "2F40:652F,6534,6587,6597,65A4,65B9,65E0,65E5,66F0,6708,6728,6B20,6B62,6B79,6BB3,6BCB",
   "2F50:6BD4,6BDB,6C0F,6C14,6C34,706B,722A,7236,723B,723F,7247,7259,725B,72AC,7384,7389",
   "2F60:74DC,74E6,7518,751F,7528,7530,758B,7592,7676,767D,76AE,76BF,76EE,77DB,77E2,77F3",
   "2F70:793A,79B8,79BE,7A74,7ACB,7AF9,7C73,7CF8,7F36,7F51,7F8A,7FBD,8001,800C,8012,8033",
   "2F80:807F,8089,81E3,81EA,81F3,81FC,820C,821B,821F,826E,8272,8278,864D,866B,8840,884C",
   "2F90:8863,897E,898B,89D2,8A00,8C37,8C46,8C55,8C78,8C9D,8D64,8D70,8DB3,8EAB,8ECA,8F9B",
   "2FA0:8FB0,8FB5,9091,9149,91C6,91CC,91D1,9577,9580,961C,96B6,96B9,96E8,9751,975E,9762",
   "2FB0:9769,97CB,97ED,97F3,9801,98A8,98DB,98DF,9996,9999,99AC,9AA8,9AD8,9ADF,9B25,9B2F",
   "2FC0:9B32,9B3C,9B5A,9CE5,9E75,9E7F,9EA5,9EBB,9EC3,9ECD,9ED1,9EF9,9EFD,9F0E,9F13,9F20",
   "2FD0:9F3B,9F4A,9F52,9F8D,9F9C,9FA0 3000:0020 3002:002E 3036:3012 3038:5341,5344-5345",
   "309B:0020.3099,0020.309A 309F:3088.308A 30FF:30B3.30C8",
   "3131:1100-1101,11AA,1102,11AC-11AD,1103-1105,11B0-11B5,111A,1106-1108,1121,1109-1112",
   "314F:1161-1175",
   "3165:1114-1115,11C7-11C8,11CC,11CE,11D3,11D7,11D9,111C,11DD,11DF,111D-111E,1120",
   "3174:1122-1123,1127,1129,112B-112F,1132,1136,1140,1147,114C,11F1-11F2,1157-1159",
   "3187:1184-1185,1188,1191-1192,1194,119E,11A1",
   "3192:4E00,4E8C,4E09,56DB,4E0A,4E2D,4E0B,7532,4E59,4E19,4E01,5929,5730,4EBA",
   "3200:0028.1100.0029,0028.1102.0029,0028.1103.0029,0028.1105.0029,0028.1106.0029",
   "3205:0028.1107.0029,0028.1109.0029,0028.110B.0029,0028.110C.0029,0028.110E.0029",
   "320A:0028.110F.0029,0028.1110.0029,0028.1111.0029,0028.1112.0029,0028.AC00.0029",
   "320F:0028.B098.0029,0028.B2E4.0029,0028.B77C.0029,0028.B9C8.0029,0028.BC14.0029",
   "3214:0028.C0AC.0029,0028.C544.0029,0028.C790.0029,0028.CC28.0029,0028.CE74.0029",
   "3219:0028.D0C0.0029,0028.D30C.0029,0028.D558.0029,0028.C8FC.0029,0028.C624.C804.0029",
   "321E:0028.C624.D6C4.0029",
   "3220:0028.4E00.0029,0028.4E8C.0029,0028.4E09.0029,0028.56DB.0029,0028.4E94.0029",
   "3225:0028.516D.0029,0028.4E03.0029,0028.516B.0029,0028.4E5D.0029,0028.5341.0029",
   "322A:0028.6708.0029,0028.706B.0029,0028.6C34.0029,0028.6728.0029,0028.91D1.0029",
   "322F:0028.571F.0029,0028.65E5.0029,0028.682A.0029,0028.6709.0029,0028.793E.0029",
   "3234:0028.540D.0029,0028.7279.0029,0028.8CA1.0029,0028.795D.0029,0028.52B4.0029",
   "3239:0028.4EE3.0029,0028.547C.0029,0028.5B66.0029,0028.76E3.0029,0028.4F01.0029",
   "323E:0028.8CC7.0029,0028.5354.0029,0028.796D.0029,0028.4F11.0029,0028.81EA.0029",
   "3243:0028.81F3.0029,554F,5E7C,6587,7B8F",
   "3250:0070.0074.0065,0032.0031,0032.0032,0032.0033,0032.0034,0032.0035,0032.0036",
   "3257:0032.0037,0032.0038,0032.0039,0033.0030,0033.0031,0033.0032,0033.0033,0033.0034",
   "325F:0033.0035,1100,1102-1103,1105-1107,1109,110B-110C,110E-1112,AC00,B098,B2E4,B77C",
   "3272:B9C8,BC14,C0AC,C544,C790,CC28,CE74,D0C0,D30C,D558,CC38.ACE0,C8FC.C758,C6B0",
   "3280:4E00,4E8C,4E09,56DB,4E94,516D,4E03,516B,4E5D,5341,6708,706B,6C34,6728,91D1,571F",
   "3290:65E5,682A,6709,793E,540D,7279,8CA1,795D,52B4,79D8,7537,5973,9069,512A,5370,6CE8",
   "32A0:9805,4F11,5199,6B63,4E0A,4E2D,4E0B,5DE6,53F3,533B,5B97,5B66,76E3,4F01,8CC7,5354",
   "32B0:591C,0033.0036,0033.0037,0033.0038,0033.0039,0034.0030,0034.0031,0034.0032",
   "32B8:0034.0033,0034.0034,0034.0035,0034.0036,0034.0037,0034.0038,0034.0039,0035.0030",
   "32C0:0031.6708,0032.6708,0033.6708,0034.6708,0035.6708,0036.6708,0037.6708,0038.6708",
   "32C8:0039.6708,0031.0030.6708,0031.0031.6708,0031.0032.6708,0068.0067,0065.0072.0067",
   "32CE:0065.0076,006C.0074.0064,30A2,30A4,30A6,30A8,30AA-30AB,30AD,30AF,30B1,30B3,30B5",
   "32DB:30B7,30B9,30BB,30BD,30BF,30C1,30C4,30C6,30C8,30CA-30CF,30D2,30D5,30D8,30DB",
   "32EE:30DE-30E2,30E4,30E6,30E8-30ED,30EF-30F2,4EE4.548C,30A2.30D1.30FC.30C8",
   "3301:30A2.30EB.30D5.30A1,30A2.30F3.30DA.30A2,30A2.30FC.30EB,30A4.30CB.30F3.30B0",
   "3305:30A4.30F3.30C1,30A6.30A9.30F3,30A8.30B9.30AF.30FC.30C9,30A8.30FC.30AB.30FC",
   "3309:30AA.30F3.30B9,30AA.30FC.30E0,30AB.30A4.30EA,30AB.30E9.30C3.30C8",
   "330D:30AB.30ED.30EA.30FC,30AC.30ED.30F3,30AC.30F3.30DE,30AE.30AC,30AE.30CB.30FC",
   "3312:30AD.30E5.30EA.30FC,30AE.30EB.30C0.30FC,30AD.30ED,30AD.30ED.30B0.30E9.30E0",
   "3316:30AD.30ED.30E1.30FC.30C8.30EB,30AD.30ED.30EF.30C3.30C8,30B0.30E9.30E0",
   "3319:30B0.30E9.30E0.30C8.30F3,30AF.30EB.30BC.30A4.30ED,30AF.30ED.30FC.30CD",
   "331C:30B1.30FC.30B9,30B3.30EB.30CA,30B3.30FC.30DD,30B5.30A4.30AF.30EB",
   "3320:30B5.30F3.30C1.30FC.30E0,30B7.30EA.30F3.30B0,30BB.30F3.30C1,30BB.30F3.30C8",
   "3324:30C0.30FC.30B9,30C7.30B7,30C9.30EB,30C8.30F3,30CA.30CE,30CE.30C3.30C8",
   "332A:30CF.30A4.30C4,30D1.30FC.30BB.30F3.30C8,30D1.30FC.30C4,30D0.30FC.30EC.30EB",
   "332E:30D4.30A2.30B9.30C8.30EB,30D4.30AF.30EB,30D4.30B3,30D3.30EB",
   "3332:30D5.30A1.30E9.30C3.30C9,30D5.30A3.30FC.30C8,30D6.30C3.30B7.30A7.30EB",
   "3335:30D5.30E9.30F3,30D8.30AF.30BF.30FC.30EB,30DA.30BD,30DA.30CB.30D2,30D8.30EB.30C4",
   "333A:30DA.30F3.30B9,30DA.30FC.30B8,30D9.30FC.30BF,30DD.30A4.30F3.30C8,30DC.30EB.30C8",
   "333F:30DB.30F3,30DD.30F3.30C9,30DB.30FC.30EB,30DB.30FC.30F3,30DE.30A4.30AF.30ED",
   "3344:30DE.30A4.30EB,30DE.30C3.30CF,30DE.30EB.30AF,30DE.30F3.30B7.30E7.30F3",
   "3348:30DF.30AF.30ED.30F3,30DF.30EA,30DF.30EA.30D0.30FC.30EB,30E1.30AC",
   "334C:30E1.30AC.30C8.30F3,30E1.30FC.30C8.30EB,30E4.30FC.30C9,30E4.30FC.30EB",
   "3350:30E6.30A2.30F3,30EA.30C3.30C8.30EB,30EA.30E9,30EB.30D4.30FC,30EB.30FC.30D6.30EB",
   "3355:30EC.30E0,30EC.30F3.30C8.30B2.30F3,30EF.30C3.30C8,0030.70B9,0031.70B9,0032.70B9",
   "335B:0033.70B9,0034.70B9,0035.70B9,0036.70B9,0037.70B9,0038.70B9,0039.70B9",
   "3362:0031.0030.70B9,0031.0031.70B9,0031.0032.70B9,0031.0033.70B9,0031.0034.70B9",
   "3367:0031.0035.70B9,0031.0036.70B9,0031.0037.70B9,0031.0038.70B9,0031.0039.70B9",
   "336C:0032.0030.70B9,0032.0031.70B9,0032.0032.70B9,0032.0033.70B9,0032.0034.70B9",
   "3371:0068.0070.0061,0064.0061,0061.0075,0062.0061.0072,006F.0076,0070.0063,0064.006D",
   "3378:0064.006D.0032,0064.006D.0033,0069.0075,5E73.6210,662D.548C,5927.6B63,660E.6CBB",
   "337F:682A.5F0F.4F1A.793E,0070.0061,006E.0061,03BC.0061,006D.0061,006B.0061,006B.0062",
   "3386:006D.0062,0067.0062,0063.0061.006C,006B.0063.0061.006C,0070.0066,006E.0066",
   "338C:03BC.0066,03BC.0067,006D.0067,006B.0067,0068.007A,006B.0068.007A,006D.0068.007A",
   "3393:0067.0068.007A,0074.0068.007A,03BC.006C,006D.006C,0064.006C,006B.006C,0066.006D",
   "339A:006E.006D,03BC.006D,006D.006D,0063.006D,006B.006D,006D.006D.0032,0063.006D.0032",
   "33A1:006D.0032,006B.006D.0032,006D.006D.0033,0063.006D.0033,006D.0033,006B.006D.0033",
   "33A7:006D.2215.0073,006D.2215.0073.0032,0070.0061,006B.0070.0061,006D.0070.0061",
   "33AC:0067.0070.0061,0072.0061.0064,0072.0061.0064.2215.0073",
   "33AF:0072.0061.0064.2215.0073.0032,0070.0073,006E.0073,03BC.0073,006D.0073,0070.0076",
   "33B5:006E.0076,03BC.0076,006D.0076,006B.0076,006D.0076,0070.0077,006E.0077,03BC.0077",
   "33BD:006D.0077,006B.0077,006D.0077,006B.03C9,006D.03C9",
   "33C3:0062.0071,0063.0063,0063.0064,0063.2215.006B.0067",
   "33C8:0064.0062,0067.0079,0068.0061,0068.0070,0069.006E,006B.006B,006B.006D,006B.0074",
   "33D0:006C.006D,006C.006E,006C.006F.0067,006C.0078,006D.0062,006D.0069.006C",
   "33D6:006D.006F.006C,0070.0068",
   "33D9:0070.0070.006D,0070.0072,0073.0072,0073.0076,0077.0062,0076.2215.006D",
   "33DF:0061.2215.006D,0031.65E5,0032.65E5,0033.65E5,0034.65E5,0035.65E5,0036.65E5",
   "33E6:0037.65E5,0038.65E5,0039.65E5,0031.0030.65E5,0031.0031.65E5,0031.0032.65E5",
   "33EC:0031.0033.65E5,0031.0034.65E5,0031.0035.65E5,0031.0036.65E5,0031.0037.65E5",
   "33F1:0031.0038.65E5,0031.0039.65E5,0032.0030.65E5,0032.0031.65E5,0032.0032.65E5",
   "33F6:0032.0033.65E5,0032.0034.65E5,0032.0035.65E5,0032.0036.65E5,0032.0037.65E5",
   "33FB:0032.0038.65E5,0032.0039.65E5,0033.0030.65E5,0033.0031.65E5,0067.0061.006C",
   "A640/A641-A66D A680/A681-A69B A69C:044A,044C A722/A723-A72F A732/A733-A76F A770:A76F",
   "A779/A77A-A77C A77D:1D79,A77F A780/A781-A787 A78B:A78C A78D:0265 A790/A791-A793",
   "A796/A797-A7A9 A7AA:0266,025C,0261,026C,026A A7B0:029E,0287,029D,AB53,A7B5 A7B6/A7B7-A7C3",
   "A7C4:A794,0282,1D8E,A7C8 A7C9:A7CA A7CB:0264,A7CD A7CE/A7CF-A7DB A7DC:019B A7DD:0277-027C",
   "A7F1:0073,0063,0066,0071,A7F6 A7F8:0127,0153 AB5C:A727,AB37,026B,AB52 AB69:028D",
   "AB6C:AB4B-AB4C AB70:13A0-13EF",
   "FB00:0066.0066,0066.0069,0066.006C,0066.0066.0069,0066.0066.006C,0073.0074,0073.0074",
   "FB13:0574.0576,0574.0565,0574.056B,057E.0576,0574.056D",
   "FB20:05E2,05D0,05D3-05D4,05DB-05DD,05E8,05EA,002B",
   "FB4F:05D0.05DC,0671,0671,067B,067B,067B,067B,067E,067E,067E,067E,0680,0680,0680,0680",
   "FB5E:067A,067A,067A,067A,067F,067F,067F,067F,0679,0679,0679,0679,06A4,06A4,06A4,06A4",
   "FB6E:06A6,06A6,06A6,06A6,0684,0684,0684,0684,0683,0683,0683,0683,0686,0686,0686",
   "FB7D:0686-0687,0687,0687,0687,068D,068D,068C,068C,068E,068E,0688,0688,0698,0698,0691",
   "FB8D:0691,06A9,06A9,06A9,06A9,06AF,06AF,06AF,06AF,06B3,06B3,06B3,06B3,06B1,06B1,06B1",
   "FB9D:06B1,06BA,06BA-06BB,06BB,06BB,06BB,06C0,06C0-06C1,06C1,06C1,06C1,06BE,06BE,06BE",
   "FBAD:06BE,06D2,06D2-06D3,06D3",
   "FBD3:06AD,06AD,06AD,06AD,06C7,06C7,06C6,06C6,06C8,06C8,06C7.0674,06CB,06CB,06C5,06C5",
   "FBE2:06C9,06C9,06D0,06D0,06D0,06D0,0649,0649,0626.0627,0626.0627,0626.06D5,0626.06D5",
   "FBEE:0626.0648,0626.0648,0626.06C7,0626.06C7,0626.06C6,0626.06C6,0626.06C8,0626.06C8",
   "FBF6:0626.06D0,0626.06D0,0626.06D0,0626.0649,0626.0649,0626.0649,06CC,06CC,06CC,06CC",
   "FC00:0626.062C,0626.062D,0626.0645,0626.0649,0626.064A,0628.062C,0628.062D,0628.062E",
   "FC08:0628.0645,0628.0649,0628.064A,062A.062C,062A.062D,062A.062E,062A.0645,062A.0649",
   "FC10:062A.064A,062B.062C,062B.0645,062B.0649,062B.064A,062C.062D,062C.0645,062D.062C",
   "FC18:062D.0645,062E.062C,062E.062D,062E.0645,0633.062C,0633.062D,0633.062E,0633.0645",
   "FC20:0635.062D,0635.0645,0636.062C,0636.062D,0636.062E,0636.0645,0637.062D,0637.0645",
   "FC28:0638.0645,0639.062C,0639.0645,063A.062C,063A.0645,0641.062C,0641.062D,0641.062E",
   "FC30:0641.0645,0641.0649,0641.064A,0642.062D,0642.0645,0642.0649,0642.064A,0643.0627",
   "FC38:0643.062C,0643.062D,0643.062E,0643.0644,0643.0645,0643.0649,0643.064A,0644.062C",
   "FC40:0644.062D,0644.062E,0644.0645,0644.0649,0644.064A,0645.062C,0645.062D,0645.062E",
   "FC48:0645.0645,0645.0649,0645.064A,0646.062C,0646.062D,0646.062E,0646.0645,0646.0649",
   "FC50:0646.064A,0647.062C,0647.0645,0647.0649,0647.064A,064A.062C,064A.062D,064A.062E",
   "FC58:064A.0645,064A.0649,064A.064A,0630.0670,0631.0670,0649.0670,0020.064C.0651",
   "FC5F:0020.064D.0651,0020.064E.0651,0020.064F.0651,0020.0650.0651,0020.0651.0670",
   "FC64:0626.0631,0626.0632,0626.0645,0626.0646,0626.0649,0626.064A,0628.0631,0628.0632",
   "FC6C:0628.0645,0628.0646,0628.0649,0628.064A,062A.0631,062A.0632,062A.0645,062A.0646",
   "FC74:062A.0649,062A.064A,062B.0631,062B.0632,062B.0645,062B.0646,062B.0649,062B.064A",
   "FC7C:0641.0649,0641.064A,0642.0649,0642.064A,0643.0627,0643.0644,0643.0645,0643.0649",
   "FC84:0643.064A,0644.0645,0644.0649,0644.064A,0645.0627,0645.0645,0646.0631,0646.0632",
   "FC8C:0646.0645,0646.0646,0646.0649,0646.064A,0649.0670,064A.0631,064A.0632,064A.0645",
   "FC94:064A.0646,064A.0649,064A.064A,0626.062C,0626.062D,0626.062E,0626.0645,0626.0647",
   "FC9C:0628.062C,0628.062D,0628.062E,0628.0645,0628.0647,062A.062C,062A.062D,062A.062E",
   "FCA4:062A.0645,062A.0647,062B.0645,062C.062D,062C.0645,062D.062C,062D.0645,062E.062C",
   "FCAC:062E.0645,0633.062C,0633.062D,0633.062E,0633.0645,0635.062D,0635.062E,0635.0645",
   "FCB4:0636.062C,0636.062D,0636.062E,0636.0645,0637.062D,0638.0645,0639.062C,0639.0645",
   "FCBC:063A.062C,063A.0645,0641.062C,0641.062D,0641.062E,0641.0645,0642.062D,0642.0645",
   "FCC4:0643.062C,0643.062D,0643.062E,0643.0644,0643.0645,0644.062C,0644.062D,0644.062E",
   "FCCC:0644.0645,0644.0647,0645.062C,0645.062D,0645.062E,0645.0645,0646.062C,0646.062D",
   "FCD4:0646.062E,0646.0645,0646.0647,0647.062C,0647.0645,0647.0670,064A.062C,064A.062D",
   "FCDC:064A.062E,064A.0645,064A.0647,0626.0645,0626.0647,0628.0645,0628.0647,062A.0645",
   "FCE4:062A.0647,062B.0645,062B.0647,0633.0645,0633.0647,0634.0645,0634.0647,0643.0644",
   "FCEC:0643.0645,0644.0645,0646.0645,0646.0647,064A.0645,064A.0647,0640.064E.0651",
   "FCF3:0640.064F.0651,0640.0650.0651,0637.0649,0637.064A,0639.0649,0639.064A,063A.0649",
   "FCFA:063A.064A,0633.0649,0633.064A,0634.0649,0634.064A,062D.0649,062D.064A,062C.0649",
   "FD02:062C.064A,062E.0649,062E.064A,0635.0649,0635.064A,0636.0649,0636.064A,0634.062C",
   "FD0A:0634.062D,0634.062E,0634.0645,0634.0631,0633.0631,0635.0631,0636.0631,0637.0649",
   "FD12:0637.064A,0639.0649,0639.064A,063A.0649,063A.064A,0633.0649,0633.064A,0634.0649",
   "FD1A:0634.064A,062D.0649,062D.064A,062C.0649,062C.064A,062E.0649,062E.064A,0635.0649",
   "FD22:0635.064A,0636.0649,0636.064A,0634.062C,0634.062D,0634.062E,0634.0645,0634.0631",
   "FD2A:0633.0631,0635.0631,0636.0631,0634.062C,0634.062D,0634.062E,0634.0645,0633.0647",
   "FD32:0634.0647,0637.0645,0633.062C,0633.062D,0633.062E,0634.062C,0634.062D,0634.062E",
   "FD3A:0637.0645,0638.0645,0627.064B,0627.064B",
   "FD50:062A.062C.0645,062A.062D.062C,062A.062D.062C,062A.062D.0645,062A.062E.0645",
   "FD55:062A.0645.062C,062A.0645.062D,062A.0645.062E,062C.0645.062D,062C.0645.062D",
   "FD5A:062D.0645.064A,062D.0645.0649,0633.062D.062C,0633.062C.062D,0633.062C.0649",
   "FD5F:0633.0645.062D,0633.0645.062D,0633.0645.062C,0633.0645.0645,0633.0645.0645",
   "FD64:0635.062D.062D,0635.062D.062D,0635.0645.0645,0634.062D.0645,0634.062D.0645",
   "FD69:0634.062C.064A,0634.0645.062E,0634.0645.062E,0634.0645.0645,0634.0645.0645",
   "FD6E:0636.062D.0649,0636.062E.0645,0636.062E.0645,0637.0645.062D,0637.0645.062D",
   "FD73:0637.0645.0645,0637.0645.064A,0639.062C.0645,0639.0645.0645,0639.0645.0645",
   "FD78:0639.0645.0649,063A.0645.0645,063A.0645.064A,063A.0645.0649,0641.062E.0645",
   "FD7D:0641.062E.0645,0642.0645.062D,0642.0645.0645,0644.062D.0645,0644.062D.064A",
   "FD82:0644.062D.0649,0644.062C.062C,0644.062C.062C,0644.062E.0645,0644.062E.0645",
   "FD87:0644.0645.062D,0644.0645.062D,0645.062D.062C,0645.062D.0645,0645.062D.064A",
   "FD8C:0645.062C.062D,0645.062C.0645,0645.062E.062C,0645.062E.0645",
   "FD92:0645.062C.062E,0647.0645.062C,0647.0645.0645,0646.062D.0645,0646.062D.0649",
   "FD97:0646.062C.0645,0646.062C.0645,0646.062C.0649,0646.0645.064A,0646.0645.0649",
   "FD9C:064A.0645.0645,064A.0645.0645,0628.062E.064A,062A.062C.064A,062A.062C.0649",
   "FDA1:062A.062E.064A,062A.062E.0649,062A.0645.064A,062A.0645.0649,062C.0645.064A",
   "FDA6:062C.062D.0649,062C.0645.0649,0633.062E.0649,0635.062D.064A,0634.062D.064A",
   "FDAB:0636.062D.064A,0644.062C.064A,0644.0645.064A,064A.062D.064A,064A.062C.064A",
   "FDB0:064A.0645.064A,0645.0645.064A,0642.0645.064A,0646.062D.064A,0642.0645.062D",
   "FDB5:0644.062D.0645,0639.0645.064A,0643.0645.064A,0646.062C.062D,0645.062E.064A",
   "FDBA:0644.062C.0645,0643.0645.0645,0644.062C.0645,0646.062C.062D,062C.062D.064A",
   "FDBF:062D.062C.064A,0645.062C.064A,0641.0645.064A,0628.062D.064A,0643.0645.0645",
   "FDC4:0639.062C.0645,0635.0645.0645,0633.062E.064A,0646.062C.064A",
   "FDF0:0635.0644.06D2,0642.0644.06D2,0627.0644.0644.0647,0627.0643.0628.0631",
   "FDF4:0645.062D.0645.062F,0635.0644.0639.0645,0631.0633.0648.0644,0639.0644.064A.0647",
   "FDF8:0648.0633.0644.0645,0635.0644.0649",
   "FDFA:0635.0644.0649.0020.0627.0644.0644.0647.0020.0639.0644.064A.0647.0020.0648.0633.0644.0645",
   "FDFB:062C.0644.0020.062C.0644.0627.0644.0647,0631.06CC.0627.0644 FE10:002C,3001",
   "FE13:003A-003B,0021,003F,3016-3017",
   "FE31:2014,2013,005F,005F,0028-0029,007B,007D,3014-3015,3010-3011,300A-300B,3008-3009",
   "FE41:300C-300F",
   "FE47:005B,005D,0020.0305,0020.0305,0020.0305,0020.0305,005F,005F,005F,002C,3001",
   "FE54:003B,003A,003F,0021,2014,0028-0029,007B,007D,3014-3015,0023,0026,002A-002B,002D",
   "FE64:003C,003E,003D FE68:005C,0024-0025,0040 FE70:0020.064B,0640.064B,0020.064C",
   "FE74:0020.064D",
   "FE76:0020.064E,0640.064E,0020.064F,0640.064F,0020.0650,0640.0650,0020.0651,0640.0651",
   "FE7E:0020.0652,0640.0652,0621-0622,0622-0623,0623-0624,0624-0625,0625-0626,0626,0626",
   "FE8C:0626-0627,0627-0628,0628,0628,0628-0629,0629-062A,062A,062A,062A-062B,062B,062B",
   "FE9C:062B-062C,062C,062C,062C-062D,062D,062D,062D-062E,062E,062E,062E-062F,062F-0630",
   "FEAC:0630-0631,0631-0632,0632-0633,0633,0633,0633-0634,0634,0634,0634-0635,0635,0635",
   "FEBC:0635-0636,0636,0636,0636-0637,0637,0637,0637-0638,0638,0638,0638-0639,0639,0639",
   "FECC:0639-063A,063A,063A,063A,0641,0641,0641,0641-0642,0642,0642,0642-0643,0643,0643",
   "FEDC:0643-0644,0644,0644,0644-0645,0645,0645,0645-0646,0646,0646,0646-0647,0647,0647",
   "FEEC:0647-0648,0648-0649,0649-064A,064A,064A,064A,0644.0622,0644.0622,0644.0623",
   "FEF8:0644.0623,0644.0625,0644.0625,0644.0627,0644.0627",
   "FF01:0021-0040,0061-007A,005B-007E,2985-2986,002E,300C-300D,3001,30FB,30F2,30A1,30A3",
   "FF69:30A5,30A7,30A9,30E3,30E5,30E7,30C3,30FC,30A2,30A4,30A6,30A8,30AA-30AB,30AD,30AF",
   "FF79:30B1,30B3,30B5,30B7,30B9,30BB,30BD,30BF,30C1,30C4,30C6,30C8,30CA-30CF,30D2,30D5",
   "FF8D:30D8,30DB,30DE-30E2,30E4,30E6,30E8-30ED,30EF,30F3,3099-309A",
   "FFA1:1100-1101,11AA,1102,11AC-11AD,1103-1105,11B0-11B5,111A,1106-1108,1121,1109-1112",
   "FFC2:1161-1166 FFCA:1167-116C FFD2:116D-1172 FFDA:1173-1175",
   "FFE0:00A2-00A3,00AC,0020.0304,00A6,00A5,20A9 FFE8:2502,2190-2193,25A0,25CB 10400:10428-1044F",
   "104B0:104D8-104FB 10570:10597-105A1 1057C:105A3-105B1 1058C:105B3-105B9 10594:105BB-105BC",
   "10781:02D0-02D1,00E6,0299,0253",
   "10787:02A3,AB66,02A5,02A4,0256-0257,1D91,0258,025E,02A9,0264,0262,0260,029B,0127,029C",
   "10797:0267,0284,02AA-02AB,026C,1DF04,A78E,026E,1DF05,028E,1DF06,00F8,0276-0277,0071,027A",
   "107A7:1DF08,027D-027E,0280,02A8,02A6,AB67,02A7,0288,2C71",
   "107B2:028F,02A1-02A2,0298,01C0-01C2,1DF0A,1DF1E 107BB:0287,0296-0297,029E 10C80:10CC0-10CF2",
   "10D50:10D70-10D85 118A0:118C0-118DF 16E40:16E60-16E7F 16EA0:16EBB-16ED3 1B123:3053.3068",
   "1CCD6:0061-007A,0030-0039 1D400:0061-007A,0061-007A,0061-007A,0061-0067",
   "1D456:0069-007A,0061-007A,0061-007A,0061 1D49E:0063-0064 1D4A2:0067 1D4A5:006A-006B",
   "1D4A9:006E-0071 1D4AE:0073-007A,0061-0064 1D4BB:0066 1D4BD:0068-006E",
   "1D4C5:0070-007A,0061-007A,0061-007A,0061-0062 1D507:0064-0067 1D50D:006A-0071",
   "1D516:0073-0079 1D51E:0061-007A,0061-0062 1D53B:0064-0067 1D540:0069-006D 1D546:006F",
   "1D54A:0073-0079",
   "1D552:0061-007A,0061-007A,0061-007A,0061-007A,0061-007A,0061-007A,0061-007A,0061-007A",
   "1D622:0061-007A,0061-007A,0061-007A,0061-007A,0061-007A,0131,0237 1D6A6:0073.0073",
   "1D6A8:03B1-03C1,03B8,03C3-03C9,2207,03B1-03C1,03C3,03C3-03C9,2202,03B5,03B8,03BA,03C6",
   "1D6E0:03C1,03C0,03B1-03C1,03B8,03C3-03C9,2207,03B1-03C1,03C3,03C3-03C9,2202,03B5,03B8",
   "1D718:03BA,03C6,03C1,03C0,03B1-03C1,03B8,03C3-03C9,2207,03B1-03C1,03C3,03C3-03C9,2202",
   "1D750:03B5,03B8,03BA,03C6,03C1,03C0,03B1-03C1,03B8,03C3-03C9,2207,03B1-03C1,03C3",
   "1D782:03C3-03C9,2202,03B5,03B8,03BA,03C6,03C1,03C0,03B1-03C1,03B8,03C3-03C9,2207",
   "1D7AA:03B1-03C1,03C3,03C3-03C9,2202,03B5,03B8,03BA,03C6,03C1,03C0,03DD,03DD",
   "1D7CE:0030-0039,0030-0039,0030-0039,0030-0039,0030-0039 1DFCD:1DF57",
   "1E030:0430-0438,043A-043C,043E-0448,044B,044D-044E,A689,04D9,0456,0458,04E9,04AF,04CF",
   "1E051:0430-0438,043A-043B,043E-043F,0441,0443-0448,044A-044B,0491,0456,0455,045F,04AB",
   "1E06C:A651,04B1 1E900:1E922-1E943 1EE00:0627-0628,062C,062F",
   "1EE05:0648,0632,062D,0637,064A,0643-0646,0633,0639,0641,0635,0642,0631,0634,062A-062B",
   "1EE17:062E,0630,0636,0638,063A,066E,06BA,06A1,066F 1EE21:0628,062C 1EE24:0647 1EE27:062D",
   "1EE29:064A,0643-0646,0633,0639,0641,0635,0642 1EE34:0634,062A-062B,062E 1EE39:0636",
   "1EE3B:063A 1EE42:062C 1EE47:062D 1EE49:064A 1EE4B:0644 1EE4D:0646,0633,0639 1EE51:0635,0642",
   "1EE54:0634 1EE57:062E 1EE59:0636 1EE5B:063A 1EE5D:06BA 1EE5F:066F 1EE61:0628,062C 1EE64:0647",
   "1EE67:062D,0637,064A,0643 1EE6C:0645-0646,0633,0639,0641,0635,0642 1EE74:0634,062A-062B,062E",
   "1EE79:0636,0638,063A,066E 1EE7E:06A1 1EE80:0627-0628,062C,062F,0647-0648,0632,062D,0637,064A",
   "1EE8B:0644-0646,0633,0639,0641,0635,0642,0631,0634,062A-062B,062E,0630,0636,0638,063A",
   "1EEA1:0628,062C,062F 1EEA5:0648,0632,062D,0637,064A",
   "1EEAB:0644-0646,0633,0639,0641,0635,0642,0631,0634,062A-062B,062E,0630,0636,0638,063A",
   "1F101:0030.002C,0031.002C,0032.002C,0033.002C,0034.002C,0035.002C,0036.002C,0037.002C",
   "1F109:0038.002C,0039.002C",
   "1F110:0028.0061.0029,0028.0062.0029,0028.0063.0029,0028.0064.0029,0028.0065.0029",
   "1F115:0028.0066.0029,0028.0067.0029,0028.0068.0029,0028.0069.0029,0028.006A.0029",
   "1F11A:0028.006B.0029,0028.006C.0029,0028.006D.0029,0028.006E.0029,0028.006F.0029",
   "1F11F:0028.0070.0029,0028.0071.0029,0028.0072.0029,0028.0073.0029,0028.0074.0029",
   "1F124:0028.0075.0029,0028.0076.0029,0028.0077.0029,0028.0078.0029,0028.0079.0029",
   "1F129:0028.007A.0029,3014.0073.3015,0063,0072,0063.0064,0077.007A",
   "1F130:0061-007A,0068.0076,006D.0076,0073.0064,0073.0073,0070.0070.0076,0077.0063",
   "1F16A:006D.0063,006D.0064,006D.0072 1F190:0064.006A 1F200:307B.304B,30B3.30B3,30B5",
   "1F210:624B,5B57,53CC,30C7,4E8C,591A,89E3,5929,4EA4,6620,7121,6599,524D,5F8C,518D,65B0",
   "1F220:521D,7D42,751F,8CA9,58F0,5439,6F14,6295,6355,4E00,4E09,904A,5DE6,4E2D,53F3,6307",
   "1F230:8D70,6253,7981,7A7A,5408,6E80,6709,6708,7533,5272,55B6,914D",
   "1F240:3014.672C.3015,3014.4E09.3015,3014.4E8C.3015,3014.5B89.3015,3014.70B9.3015",
   "1F245:3014.6253.3015,3014.76D7.3015,3014.52DD.3015,3014.6557.3015 1F250:5F97,53EF",
   "1FBF0:0030-0039"]

def ignored : CharSet := .ofLines
  ["00AD 034F 115F-1160 17B4-17B5 180B-180F 200B 2060-2064 206A-206F 3164 FE00-FE0F",
   "FEFF FFA0 1BCA0-1BCA3 1D173-1D17A E0100-E01EF"]

/-- Characters that no domain name may hold, among those that are neither replaced nor ignored. -/
def refused : CharSet := .ofLines
  ["0080-009F 0378-0379 0380-0383 038B-038D 03A2 0530-0558 058B-058C 0590 05C9-05CF 05EB-05EE",
   "05F5-0605 061C 06DD 070E-070F 074B-074C 07B2-07BF 07FB-07FC 082E-082F 083F 085C-085D 085F",
   "086B-086F 0890-0896 08E2 0984 098D-098E 0991-0992 09A9 09B1 09B3-09B5 09BA-09BB 09C5-09C6",
   "09C9-09CA 09CF-09D6 09D8-09DB 09DE 09E4-09E5 09FF-0A00 0A04 0A0B-0A0E 0A11-0A12 0A29 0A31",
   "0A34 0A37 0A3A-0A3B 0A3D 0A43-0A46 0A49-0A4A 0A4E-0A50 0A52-0A58 0A5D 0A5F-0A65 0A77-0A80",
   "0A84 0A8E 0A92 0AA9 0AB1 0AB4 0ABA-0ABB 0AC6 0ACA 0ACE-0ACF 0AD1-0ADF 0AE4-0AE5 0AF2-0AF8",
   "0B00 0B04 0B0D-0B0E 0B11-0B12 0B29 0B31 0B34 0B3A-0B3B 0B45-0B46 0B49-0B4A 0B4E-0B52",
   "0B58-0B5B 0B5E 0B64-0B65 0B78-0B81 0B84 0B8B-0B8D 0B91 0B96-0B98 0B9B 0B9D 0BA0-0BA2",
   "0BA5-0BA7 0BAB-0BAD 0BBA-0BBD 0BC3-0BC5 0BC9 0BCE-0BCF 0BD1-0BD6 0BD8-0BE5 0BFB-0BFF 0C0D",
   "0C11 0C29 0C3A-0C3B 0C45 0C49 0C4E-0C54 0C57 0C5B 0C5E-0C5F 0C64-0C65 0C70-0C76 0C8D 0C91",
   "0CA9 0CB4 0CBA-0CBB 0CC5 0CC9 0CCE-0CD4 0CD7-0CDB 0CDF 0CE4-0CE5 0CF0 0CF4-0CFF 0D0D 0D11",
   "0D45 0D49 0D50-0D53 0D64-0D65 0D80 0D84 0D97-0D99 0DB2 0DBC 0DBE-0DBF 0DC7-0DC9 0DCB-0DCE",
   "0DD5 0DD7 0DE0-0DE5 0DF0-0DF1 0DF5-0E00 0E3B-0E3E 0E5C-0E80 0E83 0E85 0E8B 0EA4 0EA6",
   "0EBE-0EBF 0EC5 0EC7 0ECF 0EDA-0EDB 0EE0-0EFF 0F48 0F6D-0F70 0F98 0FBD 0FCD 0FDB-0FFF",
   "10C6-10CF 1249 124E-124F 1257 1259 125E-125F 1289 128E-128F 12B1 12B6-12B7 12BF 12C1",
   "12C6-12C7 12D7 1311 1316-1317 135B-135C 137D-137F 139A-139F 13F6-13FF 1680 169D-169F",
   "16F9-16FF 1716-171E 1737-173F 1754-175F 176D 1771 1774-177F 17DE-17DF 17EA-17EF 17FA-17FF",
   "181A-181F 1879-187F 18AB-18AF 18F6-18FF 191F 192C-192F 193C-193F 1941-1943 196E-196F",
   "1975-197F 19AC-19AF 19CA-19CF 19DB-19DD 1A1C-1A1D 1A5F 1A7D-1A7E 1A8A-1A8F 1A9A-1A9F",
   "1AAE-1AAF 1AF1-1AFF 1B4D 1BF4-1BFB 1C38-1C3A 1C4A-1C4C 1C8B-1CBC 1CC8-1CCF 1CFB-1CFF",
   "1F16-1F1F 1F46-1F4F 1F58-1F5E 1F7E-1F7F 1FB5 1FC5 1FD4-1FD5 1FDC 1FF0-1FF5 1FFF 200E-200F",
   "2024-2026 2028-202E 2065-208E 2090-209F 20C5-20CF 20F1-20FF 218C-218F 242A-243F 244B-249B",
   "2B74-2B75 2CF4-2CF8 2D26 2D28-2D2C 2D2E-2D2F 2D68-2D6E 2D71-2D7E 2D97-2D9F 2DA7 2DAF 2DB7",
   "2DBF 2DC7 2DCF 2DD7 2DDF 2E5E-2E5F 2E9A 2EF4-2FFF 3040 3097-3098 3100-3104 3130-318F",
   "31E6-31EF 321F 33C2-33D8 A48D-A48F A4C7-A4CF A62C-A63F A6F8-A6FF A7DD-A7F0 A82D-A82F",
   "A83A-A83F A878-A87F A8C6-A8CD A8DA-A8DF A954-A95E A97D-A97F A9CE A9DA-A9DD A9FF AA37-AA3F",
   "AA4E-AA4F AA5A-AA5B AAC3-AADA AAF7-AB00 AB07-AB08 AB0F-AB10 AB17-AB1F AB27 AB2F AB6C-AB6F",
   "ABEE-ABEF ABFA-ABFF D7A4-D7AF D7C7-D7CA D7FC-F8FF FA6E-FA6F FADA-FB1C FB37 FB3D FB3F FB42",
   "FB45 FDD0-FDEF FE12-FE1F FE30 FE52-FE6F FE75-FFFF 1000C 10027 1003B 1003E 1004E-1004F",
   "1005E-1007F 100FB-100FF 10103-10106 10134-10136 1018F 1019D-1019F 101A1-101CF 101FE-1027F",
   "1029D-1029F 102D1-102DF 102FC-102FF 10324-1032C 1034B-1034F 1037B-1037F 1039E 103C4-103C7",
   "103D6-103FF 1049E-1049F 104AA-104D7 104FC-104FF 10528-1052F 10564-1056E 1057B-10596 105A2",
   "105B2 105BA 105BD-105BF 105F4-105FF 10737-1073F 10756-1075F 10768-1077F 10786-107FF",
   "10806-10807 10809 10836 10839-1083B 1083D-1083E 10856 1089F-108A6 108B0-108DF 108F3",
   "108F6-108FA 1091C-1091E 1093A-1093E 1095A-1097F 109B8-109BB 109D0-109D1 10A04 10A07-10A0B",
   "10A14 10A18 10A36-10A37 10A3B-10A3E 10A49-10A4F 10A59-10A5F 10AA0-10ABF 10AE7-10AEA",
   "10AF7-10AFF 10B36-10B38 10B56-10B57 10B73-10B77 10B92-10B98 10B9D-10BA8 10BB0-10BFF",
   "10C49-10CBF 10CF3-10CF9 10D28-10D2F 10D3A-10D3F 10D66-10D68 10D86-10D8D 10D90-10E5F 10E7F",
   "10EAA 10EAE-10EAF 10EB2-10EC1 10EC8 10ECC-10ECF 10ED9-10EEF 10F28-10F2F 10F5A-10F6F",
   "10F8A-10FAF 10FCC-10FDF 10FF7-10FFF 1104E-11051 11076-1107E 110BD 110C3-110CF 110E9-110EF",
   "110FA-110FF 11135 11148-1114F 11177-1117F 111E0 111F5-111FF 11212 11242-1127F 11287 11289",
   "1128E 1129E 112AA-112AF 112EB-112EF 112FA-112FF 11304 1130D-1130E 11311-11312 11329 11331",
   "11334 1133A 11345-11346 11349-1134A 1134E-1134F 11351-11356 11358-1135C 11364-11365",
   "1136D-1136F 11375-1137F 1138A 1138C-1138D 1138F 113B6 113C1 113C3-113C4 113C6 113CB 113D6",
   "113D9-113E0 113E3-113FF 1145C 11462-1147F 114C8-114CF 114DA-1157F 115B6-115B7 115DE-115FF",
   "11645-1164F 1165A-1165F 1166D-1167F 116BA-116BF 116CA-116CF 116E4-116FF 1171B-1171C",
   "1172C-1172F 11747-117FF 1183C-1189F 118F3-118FE 11907-11908 1190A-1190B 11914 11917 11936",
   "11939-1193A 11947-1194F 1195A-1199F 119A8-119A9 119D8-119D9 119E5-119FF 11A48-11A4F",
   "11AA3-11AAF 11AF9-11AFF 11B68-11BBF 11BE2-11BEF 11BFA-11BFF 11C09 11C37 11C46-11C4F",
   "11C6D-11C6F 11C90-11C91 11CA8 11CB7-11CFF 11D07 11D0A 11D37-11D39 11D3B 11D3E 11D48-11D4F",
   "11D5A-11D5F 11D66 11D69 11D8F 11D92 11D99-11D9F 11DAA-11DAF 11DDC-11DDF 11DEA-11EDF",
   "11EF9-11EFF 11F11 11F3B-11F3D 11F5B-11FAF 11FB1-11FBF 11FF2-11FFE 1239A-123FF 12544-1254F",
   "12687-12F8F 12FF3-12FFF 13430-1343F 13456-1345F 143FB-143FF 14647-160FF 1613A-167FF",
   "16A39-16A3F 16A5F 16A6A-16A6D 16ABF 16ACA-16ACF 16AEE-16AEF 16AF6-16AFF 16B46-16B4F 16B5A",
   "16B62 16B78-16B7C 16B90-16D3F 16D7A-16D7F 16DB0-16E3F 16E9B-16EBA 16ED4-16EFF 16F4B-16F4E",
   "16F88-16F8E 16FA0-16FDF 16FE5-16FEF 16FF7-16FFF 18CD6-18CFE 18DF3-18DFF 19200-1AFEF 1AFF4",
   "1AFFC 1AFFF 1B123-1B131 1B133-1B14F 1B153-1B154 1B156-1B163 1B2FC-1BBFF 1BC6B-1BC6F",
   "1BC7D-1BC7F 1BC89-1BC8F 1BC9A-1BC9B 1BCA4-1CBFF 1CCFD-1CCFF 1CEB4-1CEB9 1CED1 1CEDE-1CEDF",
   "1CF2E-1CF2F 1CF47-1CF4F 1CFC4-1CFFF 1D0F6-1D0FF 1D246-1D24F 1D290-1D2BF 1D2D4-1D2DF",
   "1D2F4-1D2FF 1D357-1D35F 1D379-1D7CD 1DA8C-1DA9A 1DAA0 1DAB0-1DAFF 1DC00-1DEFF 1E007",
   "1E019-1E01A 1E022 1E025 1E02B-1E08E 1E090-1E0FF 1E12D-1E12F 1E13E-1E13F 1E14A-1E14D",
   "1E150-1E28F 1E2AF-1E2BF 1E2FA-1E2FE 1E300-1E4CF 1E4FA-1E5CF 1E5FB-1E5FE 1E600-1E6BF 1E6DF",
   "1E6F6-1E6FD 1E700-1E7DF 1E7E7 1E7EC 1E7EF 1E7FF 1E8C5-1E8C6 1E8D7-1E8FF 1E94C-1E94F",
   "1E95A-1E95D 1E960-1EC70 1ECB5-1ED00 1ED3E-1EEEF 1EEF2-1EFFF 1F02C-1F02F 1F094-1F09F",
   "1F0AF-1F0B0 1F0C0 1F0D0 1F0F6-1F100 1F1AF-1F1E5 1F203-1F25F 1F266-1F2FF 1F6DA-1F6DB",
   "1F6ED-1F6EF 1F6FD-1F6FF 1F7EC-1F7EF 1F7F1-1F7FF 1F80C-1F80F 1F848-1F84F 1F85A-1F85F",
   "1F888-1F88F 1F8AE-1F8AF 1F8BC-1F8BF 1F8C2-1F8CF 1F8D9-1F8FF 1FA58-1FA5F 1FA6E-1FA6F",
   "1FA7D-1FA7F 1FAC7 1FAC9-1FACB 1FADE 1FAEC-1FAEE 1FAFB-1FAFF 1FB93 1FBFB-1FFFF 2A6E0-2A6FF",
   "2CEAE-2CEAF 2EBE1-2EBEF 2EE5E-2F7FF 2FA1E-2FFFF 3134B-3134F 3347A-3CFFF 3FC40-10FFFF"]

/-- What stands for a character in a domain name. Nothing does for a refused one. -/
def image? (c : Char) : Option (List Char) :=
  if c.toNat < 0x80 then some [c.toLower]
  else if ignored.contains c then some []
  else
    match replaced.find? c with
    | some image => some image
    | none => if refused.contains c then none else some [c]

def isKept (c : Char) : Bool := image? c == some [c]

end Excerpt.Url.Domain
