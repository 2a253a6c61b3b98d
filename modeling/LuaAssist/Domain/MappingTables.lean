import LuaAssist.Text.Ranges

/-!
# What characters become in domains

Characters beyond ASCII that look alike or differ in form only are written as one. The
tables leave out what differs in letter case only, and every character that is in no table
stays as it is.
-/

namespace LuaAssist.Domain.MappingTables

open Text (Ranges Shift)

/-- Characters that are left out. -/
def ignored : Ranges :=
  [(0xAD, 0xAD), (0x34F, 0x34F), (0x115F, 0x1160), (0x17B4, 0x17B5), (0x180B, 0x180F),
   (0x200B, 0x200B), (0x2060, 0x2064), (0x206A, 0x206F), (0x3164, 0x3164), (0xFE00, 0xFE0F),
   (0xFEFF, 0xFEFF), (0xFFA0, 0xFFA0), (0x1BCA0, 0x1BCA3), (0x1D173, 0x1D17A), (0xE0100, 0xE01EF)]

/-- Characters that no domain contains. The ranges reach across characters that another table
decides before. -/
def refused : Ranges :=
  [(0x80, 0x9F), (0x378, 0x379), (0x380, 0x383), (0x38B, 0x38B), (0x38D, 0x38D), (0x3A2, 0x3A2),
   (0x530, 0x530), (0x557, 0x558), (0x58B, 0x58C), (0x590, 0x590), (0x5C8, 0x5CF), (0x5EB, 0x5EE),
   (0x5F5, 0x605), (0x61C, 0x61C), (0x6DD, 0x6DD), (0x70E, 0x70F), (0x74B, 0x74C), (0x7B2, 0x7BF),
   (0x7FB, 0x7FC), (0x82E, 0x82F), (0x83F, 0x83F), (0x85C, 0x85D), (0x85F, 0x85F), (0x86B, 0x86F),
   (0x88F, 0x896), (0x8E2, 0x8E2), (0x984, 0x984), (0x98D, 0x98E), (0x991, 0x992), (0x9A9, 0x9A9),
   (0x9B1, 0x9B1), (0x9B3, 0x9B5), (0x9BA, 0x9BB), (0x9C5, 0x9C6), (0x9C9, 0x9CA), (0x9CF, 0x9D6),
   (0x9D8, 0x9DE), (0x9E4, 0x9E5), (0x9FF, 0xA00), (0xA04, 0xA04), (0xA0B, 0xA0E), (0xA11, 0xA12),
   (0xA29, 0xA29), (0xA31, 0xA31), (0xA34, 0xA34), (0xA37, 0xA37), (0xA3A, 0xA3B), (0xA3D, 0xA3D),
   (0xA43, 0xA46), (0xA49, 0xA4A), (0xA4E, 0xA50), (0xA52, 0xA58), (0xA5D, 0xA65), (0xA77, 0xA80),
   (0xA84, 0xA84), (0xA8E, 0xA8E), (0xA92, 0xA92), (0xAA9, 0xAA9), (0xAB1, 0xAB1), (0xAB4, 0xAB4),
   (0xABA, 0xABB), (0xAC6, 0xAC6), (0xACA, 0xACA), (0xACE, 0xACF), (0xAD1, 0xADF), (0xAE4, 0xAE5),
   (0xAF2, 0xAF8), (0xB00, 0xB00), (0xB04, 0xB04), (0xB0D, 0xB0E), (0xB11, 0xB12), (0xB29, 0xB29),
   (0xB31, 0xB31), (0xB34, 0xB34), (0xB3A, 0xB3B), (0xB45, 0xB46), (0xB49, 0xB4A), (0xB4E, 0xB54),
   (0xB58, 0xB5E), (0xB64, 0xB65), (0xB78, 0xB81), (0xB84, 0xB84), (0xB8B, 0xB8D), (0xB91, 0xB91),
   (0xB96, 0xB98), (0xB9B, 0xB9B), (0xB9D, 0xB9D), (0xBA0, 0xBA2), (0xBA5, 0xBA7), (0xBAB, 0xBAD),
   (0xBBA, 0xBBD), (0xBC3, 0xBC5), (0xBC9, 0xBC9), (0xBCE, 0xBCF), (0xBD1, 0xBD6), (0xBD8, 0xBE5),
   (0xBFB, 0xBFF), (0xC0D, 0xC0D), (0xC11, 0xC11), (0xC29, 0xC29), (0xC3A, 0xC3B), (0xC45, 0xC45),
   (0xC49, 0xC49), (0xC4E, 0xC54), (0xC57, 0xC57), (0xC5B, 0xC5C), (0xC5E, 0xC5F), (0xC64, 0xC65),
   (0xC70, 0xC76), (0xC8D, 0xC8D), (0xC91, 0xC91), (0xCA9, 0xCA9), (0xCB4, 0xCB4), (0xCBA, 0xCBB),
   (0xCC5, 0xCC5), (0xCC9, 0xCC9), (0xCCE, 0xCD4), (0xCD7, 0xCDC), (0xCDF, 0xCDF), (0xCE4, 0xCE5),
   (0xCF0, 0xCF0), (0xCF4, 0xCFF), (0xD0D, 0xD0D), (0xD11, 0xD11), (0xD45, 0xD45), (0xD49, 0xD49),
   (0xD50, 0xD53), (0xD64, 0xD65), (0xD80, 0xD80), (0xD84, 0xD84), (0xD97, 0xD99), (0xDB2, 0xDB2),
   (0xDBC, 0xDBC), (0xDBE, 0xDBF), (0xDC7, 0xDC9), (0xDCB, 0xDCE), (0xDD5, 0xDD5), (0xDD7, 0xDD7),
   (0xDE0, 0xDE5), (0xDF0, 0xDF1), (0xDF5, 0xE00), (0xE3B, 0xE3E), (0xE5C, 0xE80), (0xE83, 0xE83),
   (0xE85, 0xE85), (0xE8B, 0xE8B), (0xEA4, 0xEA4), (0xEA6, 0xEA6), (0xEBE, 0xEBF), (0xEC5, 0xEC5),
   (0xEC7, 0xEC7), (0xECF, 0xECF), (0xEDA, 0xEDB), (0xEE0, 0xEFF), (0xF48, 0xF48), (0xF6D, 0xF70),
   (0xF98, 0xF98), (0xFBD, 0xFBD), (0xFCD, 0xFCD), (0xFDB, 0xFFF), (0x10C6, 0x10C6),
   (0x10C8, 0x10CC), (0x10CE, 0x10CF), (0x1249, 0x1249), (0x124E, 0x124F), (0x1257, 0x1257),
   (0x1259, 0x1259), (0x125E, 0x125F), (0x1289, 0x1289), (0x128E, 0x128F), (0x12B1, 0x12B1),
   (0x12B6, 0x12B7), (0x12BF, 0x12BF), (0x12C1, 0x12C1), (0x12C6, 0x12C7), (0x12D7, 0x12D7),
   (0x1311, 0x1311), (0x1316, 0x1317), (0x135B, 0x135C), (0x137D, 0x137F), (0x139A, 0x139F),
   (0x13F6, 0x13F7), (0x13FE, 0x13FF), (0x1680, 0x1680), (0x169D, 0x169F), (0x16F9, 0x16FF),
   (0x1716, 0x171E), (0x1737, 0x173F), (0x1754, 0x175F), (0x176D, 0x176D), (0x1771, 0x1771),
   (0x1774, 0x177F), (0x17DE, 0x17DF), (0x17EA, 0x17EF), (0x17FA, 0x17FF), (0x181A, 0x181F),
   (0x1879, 0x187F), (0x18AB, 0x18AF), (0x18F6, 0x18FF), (0x191F, 0x191F), (0x192C, 0x192F),
   (0x193C, 0x193F), (0x1941, 0x1943), (0x196E, 0x196F), (0x1975, 0x197F), (0x19AC, 0x19AF),
   (0x19CA, 0x19CF), (0x19DB, 0x19DD), (0x1A1C, 0x1A1D), (0x1A5F, 0x1A5F), (0x1A7D, 0x1A7E),
   (0x1A8A, 0x1A8F), (0x1A9A, 0x1A9F), (0x1AAE, 0x1AAF), (0x1ACF, 0x1AFF), (0x1B4D, 0x1B4D),
   (0x1BF4, 0x1BFB), (0x1C38, 0x1C3A), (0x1C4A, 0x1C4C), (0x1C8B, 0x1C8F), (0x1CBB, 0x1CBC),
   (0x1CC8, 0x1CCF), (0x1CFB, 0x1CFF), (0x1F16, 0x1F17), (0x1F1E, 0x1F1F), (0x1F46, 0x1F47),
   (0x1F4E, 0x1F4F), (0x1F58, 0x1F58), (0x1F5A, 0x1F5A), (0x1F5C, 0x1F5C), (0x1F5E, 0x1F5E),
   (0x1F7E, 0x1F7F), (0x1FB5, 0x1FB5), (0x1FC5, 0x1FC5), (0x1FD4, 0x1FD5), (0x1FDC, 0x1FDC),
   (0x1FF0, 0x1FF5), (0x1FFF, 0x1FFF), (0x200E, 0x200F), (0x2024, 0x2026), (0x2028, 0x202E),
   (0x2065, 0x209F), (0x20C1, 0x20CF), (0x20F1, 0x20FF), (0x218C, 0x218F), (0x242A, 0x243F),
   (0x244B, 0x249B), (0x2B74, 0x2B75), (0x2B96, 0x2B96), (0x2CF4, 0x2CF8), (0x2D26, 0x2D26),
   (0x2D28, 0x2D2C), (0x2D2E, 0x2D2F), (0x2D68, 0x2D6E), (0x2D71, 0x2D7E), (0x2D97, 0x2D9F),
   (0x2DA7, 0x2DA7), (0x2DAF, 0x2DAF), (0x2DB7, 0x2DB7), (0x2DBF, 0x2DBF), (0x2DC7, 0x2DC7),
   (0x2DCF, 0x2DCF), (0x2DD7, 0x2DD7), (0x2DDF, 0x2DDF), (0x2E5E, 0x2E7F), (0x2E9A, 0x2E9A),
   (0x2EF4, 0x2FFF), (0x3040, 0x3040), (0x3097, 0x3098), (0x3100, 0x3104), (0x3130, 0x318F),
   (0x31E6, 0x31EF), (0x321F, 0x321F), (0x33C2, 0x33D8), (0xA48D, 0xA48F), (0xA4C7, 0xA4CF),
   (0xA62C, 0xA63F), (0xA6F8, 0xA6FF), (0xA7CE, 0xA7CF), (0xA7D2, 0xA7D2), (0xA7D4, 0xA7D4),
   (0xA7DD, 0xA7F1), (0xA82D, 0xA82F), (0xA83A, 0xA83F), (0xA878, 0xA87F), (0xA8C6, 0xA8CD),
   (0xA8DA, 0xA8DF), (0xA954, 0xA95E), (0xA97D, 0xA97F), (0xA9CE, 0xA9CE), (0xA9DA, 0xA9DD),
   (0xA9FF, 0xA9FF), (0xAA37, 0xAA3F), (0xAA4E, 0xAA4F), (0xAA5A, 0xAA5B), (0xAAC3, 0xAADA),
   (0xAAF7, 0xAB00), (0xAB07, 0xAB08), (0xAB0F, 0xAB10), (0xAB17, 0xAB1F), (0xAB27, 0xAB27),
   (0xAB2F, 0xAB2F), (0xAB6C, 0xAB6F), (0xABEE, 0xABEF), (0xABFA, 0xABFF), (0xD7A4, 0xD7AF),
   (0xD7C7, 0xD7CA), (0xD7FC, 0xF8FF), (0xFA6E, 0xFB1C), (0xFB37, 0xFB45), (0xFBC3, 0xFBD2),
   (0xFD90, 0xFDCE), (0xFDD0, 0xFDEF), (0xFE12, 0xFE1F), (0xFE30, 0xFE30), (0xFE52, 0xFE6F),
   (0xFE75, 0xFFFF), (0x1000C, 0x1000C), (0x10027, 0x10027), (0x1003B, 0x1003B), (0x1003E, 0x1003E),
   (0x1004E, 0x1004F), (0x1005E, 0x1007F), (0x100FB, 0x100FF), (0x10103, 0x10106),
   (0x10134, 0x10136), (0x1018F, 0x1018F), (0x1019D, 0x1019F), (0x101A1, 0x101CF),
   (0x101FE, 0x1027F), (0x1029D, 0x1029F), (0x102D1, 0x102DF), (0x102FC, 0x102FF),
   (0x10324, 0x1032C), (0x1034B, 0x1034F), (0x1037B, 0x1037F), (0x1039E, 0x1039E),
   (0x103C4, 0x103C7), (0x103D6, 0x103FF), (0x1049E, 0x1049F), (0x104AA, 0x104AF),
   (0x104D4, 0x104D7), (0x104FC, 0x104FF), (0x10528, 0x1052F), (0x10564, 0x1056E),
   (0x1057B, 0x1057B), (0x1058B, 0x1058B), (0x10593, 0x10593), (0x10596, 0x10596),
   (0x105A2, 0x105A2), (0x105B2, 0x105B2), (0x105BA, 0x105BA), (0x105BD, 0x105BF),
   (0x105F4, 0x105FF), (0x10737, 0x1073F), (0x10756, 0x1075F), (0x10768, 0x1077F),
   (0x10786, 0x107FF), (0x10806, 0x10807), (0x10809, 0x10809), (0x10836, 0x10836),
   (0x10839, 0x1083B), (0x1083D, 0x1083E), (0x10856, 0x10856), (0x1089F, 0x108A6),
   (0x108B0, 0x108DF), (0x108F3, 0x108F3), (0x108F6, 0x108FA), (0x1091C, 0x1091E),
   (0x1093A, 0x1093E), (0x10940, 0x1097F), (0x109B8, 0x109BB), (0x109D0, 0x109D1),
   (0x10A04, 0x10A04), (0x10A07, 0x10A0B), (0x10A14, 0x10A14), (0x10A18, 0x10A18),
   (0x10A36, 0x10A37), (0x10A3B, 0x10A3E), (0x10A49, 0x10A4F), (0x10A59, 0x10A5F),
   (0x10AA0, 0x10ABF), (0x10AE7, 0x10AEA), (0x10AF7, 0x10AFF), (0x10B36, 0x10B38),
   (0x10B56, 0x10B57), (0x10B73, 0x10B77), (0x10B92, 0x10B98), (0x10B9D, 0x10BA8),
   (0x10BB0, 0x10BFF), (0x10C49, 0x10C7F), (0x10CB3, 0x10CBF), (0x10CF3, 0x10CF9),
   (0x10D28, 0x10D2F), (0x10D3A, 0x10D3F), (0x10D66, 0x10D68), (0x10D86, 0x10D8D),
   (0x10D90, 0x10E5F), (0x10E7F, 0x10E7F), (0x10EAA, 0x10EAA), (0x10EAE, 0x10EAF),
   (0x10EB2, 0x10EC1), (0x10EC5, 0x10EFB), (0x10F28, 0x10F2F), (0x10F5A, 0x10F6F),
   (0x10F8A, 0x10FAF), (0x10FCC, 0x10FDF), (0x10FF7, 0x10FFF), (0x1104E, 0x11051),
   (0x11076, 0x1107E), (0x110BD, 0x110BD), (0x110C3, 0x110CF), (0x110E9, 0x110EF),
   (0x110FA, 0x110FF), (0x11135, 0x11135), (0x11148, 0x1114F), (0x11177, 0x1117F),
   (0x111E0, 0x111E0), (0x111F5, 0x111FF), (0x11212, 0x11212), (0x11242, 0x1127F),
   (0x11287, 0x11287), (0x11289, 0x11289), (0x1128E, 0x1128E), (0x1129E, 0x1129E),
   (0x112AA, 0x112AF), (0x112EB, 0x112EF), (0x112FA, 0x112FF), (0x11304, 0x11304),
   (0x1130D, 0x1130E), (0x11311, 0x11312), (0x11329, 0x11329), (0x11331, 0x11331),
   (0x11334, 0x11334), (0x1133A, 0x1133A), (0x11345, 0x11346), (0x11349, 0x1134A),
   (0x1134E, 0x1134F), (0x11351, 0x11356), (0x11358, 0x1135C), (0x11364, 0x11365),
   (0x1136D, 0x1136F), (0x11375, 0x1137F), (0x1138A, 0x1138A), (0x1138C, 0x1138D),
   (0x1138F, 0x1138F), (0x113B6, 0x113B6), (0x113C1, 0x113C1), (0x113C3, 0x113C4),
   (0x113C6, 0x113C6), (0x113CB, 0x113CB), (0x113D6, 0x113D6), (0x113D9, 0x113E0),
   (0x113E3, 0x113FF), (0x1145C, 0x1145C), (0x11462, 0x1147F), (0x114C8, 0x114CF),
   (0x114DA, 0x1157F), (0x115B6, 0x115B7), (0x115DE, 0x115FF), (0x11645, 0x1164F),
   (0x1165A, 0x1165F), (0x1166D, 0x1167F), (0x116BA, 0x116BF), (0x116CA, 0x116CF),
   (0x116E4, 0x116FF), (0x1171B, 0x1171C), (0x1172C, 0x1172F), (0x11747, 0x117FF),
   (0x1183C, 0x1189F), (0x118F3, 0x118FE), (0x11907, 0x11908), (0x1190A, 0x1190B),
   (0x11914, 0x11914), (0x11917, 0x11917), (0x11936, 0x11936), (0x11939, 0x1193A),
   (0x11947, 0x1194F), (0x1195A, 0x1199F), (0x119A8, 0x119A9), (0x119D8, 0x119D9),
   (0x119E5, 0x119FF), (0x11A48, 0x11A4F), (0x11AA3, 0x11AAF), (0x11AF9, 0x11AFF),
   (0x11B0A, 0x11BBF), (0x11BE2, 0x11BEF), (0x11BFA, 0x11BFF), (0x11C09, 0x11C09),
   (0x11C37, 0x11C37), (0x11C46, 0x11C4F), (0x11C6D, 0x11C6F), (0x11C90, 0x11C91),
   (0x11CA8, 0x11CA8), (0x11CB7, 0x11CFF), (0x11D07, 0x11D07), (0x11D0A, 0x11D0A),
   (0x11D37, 0x11D39), (0x11D3B, 0x11D3B), (0x11D3E, 0x11D3E), (0x11D48, 0x11D4F),
   (0x11D5A, 0x11D5F), (0x11D66, 0x11D66), (0x11D69, 0x11D69), (0x11D8F, 0x11D8F),
   (0x11D92, 0x11D92), (0x11D99, 0x11D9F), (0x11DAA, 0x11EDF), (0x11EF9, 0x11EFF),
   (0x11F11, 0x11F11), (0x11F3B, 0x11F3D), (0x11F5B, 0x11FAF), (0x11FB1, 0x11FBF),
   (0x11FF2, 0x11FFE), (0x1239A, 0x123FF), (0x1246F, 0x1246F), (0x12475, 0x1247F),
   (0x12544, 0x12F8F), (0x12FF3, 0x12FFF), (0x13430, 0x1343F), (0x13456, 0x1345F),
   (0x143FB, 0x143FF), (0x14647, 0x160FF), (0x1613A, 0x167FF), (0x16A39, 0x16A3F),
   (0x16A5F, 0x16A5F), (0x16A6A, 0x16A6D), (0x16ABF, 0x16ABF), (0x16ACA, 0x16ACF),
   (0x16AEE, 0x16AEF), (0x16AF6, 0x16AFF), (0x16B46, 0x16B4F), (0x16B5A, 0x16B5A),
   (0x16B62, 0x16B62), (0x16B78, 0x16B7C), (0x16B90, 0x16D3F), (0x16D7A, 0x16E3F),
   (0x16E9B, 0x16EFF), (0x16F4B, 0x16F4E), (0x16F88, 0x16F8E), (0x16FA0, 0x16FDF),
   (0x16FE5, 0x16FEF), (0x16FF2, 0x16FFF), (0x187F8, 0x187FF), (0x18CD6, 0x18CFE),
   (0x18D09, 0x1AFEF), (0x1AFF4, 0x1AFF4), (0x1AFFC, 0x1AFFC), (0x1AFFF, 0x1AFFF),
   (0x1B123, 0x1B131), (0x1B133, 0x1B14F), (0x1B153, 0x1B154), (0x1B156, 0x1B163),
   (0x1B168, 0x1B16F), (0x1B2FC, 0x1BBFF), (0x1BC6B, 0x1BC6F), (0x1BC7D, 0x1BC7F),
   (0x1BC89, 0x1BC8F), (0x1BC9A, 0x1BC9B), (0x1BCA4, 0x1CBFF), (0x1CCFA, 0x1CCFF),
   (0x1CEB4, 0x1CEFF), (0x1CF2E, 0x1CF2F), (0x1CF47, 0x1CF4F), (0x1CFC4, 0x1CFFF),
   (0x1D0F6, 0x1D0FF), (0x1D127, 0x1D128), (0x1D1EB, 0x1D1FF), (0x1D246, 0x1D2BF),
   (0x1D2D4, 0x1D2DF), (0x1D2F4, 0x1D2FF), (0x1D357, 0x1D35F), (0x1D379, 0x1D7CD),
   (0x1DA8C, 0x1DA9A), (0x1DAA0, 0x1DAA0), (0x1DAB0, 0x1DEFF), (0x1DF1F, 0x1DF24),
   (0x1DF2B, 0x1DFFF), (0x1E007, 0x1E007), (0x1E019, 0x1E01A), (0x1E022, 0x1E022),
   (0x1E025, 0x1E025), (0x1E02B, 0x1E08E), (0x1E090, 0x1E0FF), (0x1E12D, 0x1E12F),
   (0x1E13E, 0x1E13F), (0x1E14A, 0x1E14D), (0x1E150, 0x1E28F), (0x1E2AF, 0x1E2BF),
   (0x1E2FA, 0x1E2FE), (0x1E300, 0x1E4CF), (0x1E4FA, 0x1E5CF), (0x1E5FB, 0x1E5FE),
   (0x1E600, 0x1E7DF), (0x1E7E7, 0x1E7E7), (0x1E7EC, 0x1E7EC), (0x1E7EF, 0x1E7EF),
   (0x1E7FF, 0x1E7FF), (0x1E8C5, 0x1E8C6), (0x1E8D7, 0x1E8FF), (0x1E94C, 0x1E94F),
   (0x1E95A, 0x1E95D), (0x1E960, 0x1EC70), (0x1ECB5, 0x1ED00), (0x1ED3E, 0x1EEEF),
   (0x1EEF2, 0x1EFFF), (0x1F02C, 0x1F02F), (0x1F094, 0x1F09F), (0x1F0AF, 0x1F0B0),
   (0x1F0C0, 0x1F0C0), (0x1F0D0, 0x1F0D0), (0x1F0F6, 0x1F100), (0x1F1AE, 0x1F1E5),
   (0x1F203, 0x1F25F), (0x1F266, 0x1F2FF), (0x1F6D8, 0x1F6DB), (0x1F6ED, 0x1F6EF),
   (0x1F6FD, 0x1F6FF), (0x1F777, 0x1F77A), (0x1F7DA, 0x1F7DF), (0x1F7EC, 0x1F7EF),
   (0x1F7F1, 0x1F7FF), (0x1F80C, 0x1F80F), (0x1F848, 0x1F84F), (0x1F85A, 0x1F85F),
   (0x1F888, 0x1F88F), (0x1F8AE, 0x1F8AF), (0x1F8BC, 0x1F8BF), (0x1F8C2, 0x1F8FF),
   (0x1FA54, 0x1FA5F), (0x1FA6E, 0x1FA6F), (0x1FA7D, 0x1FA7F), (0x1FA8A, 0x1FA8E),
   (0x1FAC7, 0x1FACD), (0x1FADD, 0x1FADE), (0x1FAEA, 0x1FAEF), (0x1FAF9, 0x1FAFF),
   (0x1FB93, 0x1FB93), (0x1FBFA, 0x1FFFF), (0x2A6E0, 0x2A6FF), (0x2B73A, 0x2B73F),
   (0x2B81E, 0x2B81F), (0x2CEA2, 0x2CEAF), (0x2EBE1, 0x2EBEF), (0x2EE5E, 0x2FFFF),
   (0x3134B, 0x3134F), (0x323B0, 0x10FFFF)]

/-- Alphabets and numerals in another form. -/
def shifted : List Shift :=
  [⟨0x1D33, 0x1D3A, 1, -7372⟩, ⟨0x1D5D, 0x1D5F, 1, -6571⟩, ⟨0x1DA4, 0x1DA6, 1, -6972⟩,
   ⟨0x1DAE, 0x1DB1, 1, -6972⟩, ⟨0x1DBC, 0x1DBE, 1, -6956⟩, ⟨0x2074, 0x2079, 1, -8256⟩,
   ⟨0x2080, 0x2089, 1, -8272⟩, ⟨0x2096, 0x2099, 1, -8235⟩, ⟨0x2119, 0x211B, 1, -8361⟩,
   ⟨0x2135, 0x2138, 1, -7013⟩, ⟨0x2460, 0x2468, 1, -9263⟩, ⟨0x24B6, 0x24CF, 1, -9301⟩,
   ⟨0x24D0, 0x24E9, 1, -9327⟩, ⟨0x3137, 0x3139, 1, -8244⟩, ⟨0x313A, 0x313F, 1, -8074⟩,
   ⟨0x3141, 0x3143, 1, -8251⟩, ⟨0x3145, 0x314E, 1, -8252⟩, ⟨0x314F, 0x3163, 1, -8174⟩,
   ⟨0x3178, 0x317C, 1, -8269⟩, ⟨0x3184, 0x3186, 1, -8237⟩, ⟨0x3263, 0x3265, 1, -8542⟩,
   ⟨0x3269, 0x326D, 1, -8539⟩, ⟨0x32E4, 0x32E9, 1, -538⟩, ⟨0x32EE, 0x32F2, 1, -528⟩,
   ⟨0x32F5, 0x32FA, 1, -525⟩, ⟨0x32FB, 0x32FE, 1, -524⟩, ⟨0xFB24, 0xFB26, 1, -62793⟩,
   ⟨0xFE41, 0xFE44, 1, -52789⟩, ⟨0xFF01, 0xFF20, 1, -65248⟩, ⟨0xFF21, 0xFF3A, 1, -65216⟩,
   ⟨0xFF3B, 0xFF5E, 1, -65248⟩, ⟨0xFF85, 0xFF8A, 1, -52923⟩, ⟨0xFF8F, 0xFF93, 1, -52913⟩,
   ⟨0xFF96, 0xFF9B, 1, -52910⟩, ⟨0xFFA7, 0xFFA9, 1, -61092⟩, ⟨0xFFAA, 0xFFAF, 1, -60922⟩,
   ⟨0xFFB1, 0xFFB3, 1, -61099⟩, ⟨0xFFB5, 0xFFBE, 1, -61100⟩, ⟨0xFFC2, 0xFFC7, 1, -61025⟩,
   ⟨0xFFCA, 0xFFCF, 1, -61027⟩, ⟨0xFFD2, 0xFFD7, 1, -61029⟩, ⟨0xFFDA, 0xFFDC, 1, -61031⟩,
   ⟨0xFFE9, 0xFFEC, 1, -56921⟩, ⟨0x107B6, 0x107B8, 1, -67062⟩, ⟨0x1CCD6, 0x1CCEF, 1, -117877⟩,
   ⟨0x1CCF0, 0x1CCF9, 1, -117952⟩, ⟨0x1D400, 0x1D419, 1, -119711⟩, ⟨0x1D41A, 0x1D433, 1, -119737⟩,
   ⟨0x1D434, 0x1D44D, 1, -119763⟩, ⟨0x1D44E, 0x1D454, 1, -119789⟩, ⟨0x1D456, 0x1D467, 1, -119789⟩,
   ⟨0x1D468, 0x1D481, 1, -119815⟩, ⟨0x1D482, 0x1D49B, 1, -119841⟩, ⟨0x1D4A9, 0x1D4AC, 1, -119867⟩,
   ⟨0x1D4AE, 0x1D4B5, 1, -119867⟩, ⟨0x1D4B6, 0x1D4B9, 1, -119893⟩, ⟨0x1D4BD, 0x1D4C3, 1, -119893⟩,
   ⟨0x1D4C5, 0x1D4CF, 1, -119893⟩, ⟨0x1D4D0, 0x1D4E9, 1, -119919⟩, ⟨0x1D4EA, 0x1D503, 1, -119945⟩,
   ⟨0x1D507, 0x1D50A, 1, -119971⟩, ⟨0x1D50D, 0x1D514, 1, -119971⟩, ⟨0x1D516, 0x1D51C, 1, -119971⟩,
   ⟨0x1D51E, 0x1D537, 1, -119997⟩, ⟨0x1D53B, 0x1D53E, 1, -120023⟩, ⟨0x1D540, 0x1D544, 1, -120023⟩,
   ⟨0x1D54A, 0x1D550, 1, -120023⟩, ⟨0x1D552, 0x1D56B, 1, -120049⟩, ⟨0x1D56C, 0x1D585, 1, -120075⟩,
   ⟨0x1D586, 0x1D59F, 1, -120101⟩, ⟨0x1D5A0, 0x1D5B9, 1, -120127⟩, ⟨0x1D5BA, 0x1D5D3, 1, -120153⟩,
   ⟨0x1D5D4, 0x1D5ED, 1, -120179⟩, ⟨0x1D5EE, 0x1D607, 1, -120205⟩, ⟨0x1D608, 0x1D621, 1, -120231⟩,
   ⟨0x1D622, 0x1D63B, 1, -120257⟩, ⟨0x1D63C, 0x1D655, 1, -120283⟩, ⟨0x1D656, 0x1D66F, 1, -120309⟩,
   ⟨0x1D670, 0x1D689, 1, -120335⟩, ⟨0x1D68A, 0x1D6A3, 1, -120361⟩, ⟨0x1D6A8, 0x1D6B8, 1, -119543⟩,
   ⟨0x1D6BA, 0x1D6C0, 1, -119543⟩, ⟨0x1D6C2, 0x1D6D2, 1, -119569⟩, ⟨0x1D6D4, 0x1D6DA, 1, -119569⟩,
   ⟨0x1D6E2, 0x1D6F2, 1, -119601⟩, ⟨0x1D6F4, 0x1D6FA, 1, -119601⟩, ⟨0x1D6FC, 0x1D70C, 1, -119627⟩,
   ⟨0x1D70E, 0x1D714, 1, -119627⟩, ⟨0x1D71C, 0x1D72C, 1, -119659⟩, ⟨0x1D72E, 0x1D734, 1, -119659⟩,
   ⟨0x1D736, 0x1D746, 1, -119685⟩, ⟨0x1D748, 0x1D74E, 1, -119685⟩, ⟨0x1D756, 0x1D766, 1, -119717⟩,
   ⟨0x1D768, 0x1D76E, 1, -119717⟩, ⟨0x1D770, 0x1D780, 1, -119743⟩, ⟨0x1D782, 0x1D788, 1, -119743⟩,
   ⟨0x1D790, 0x1D7A0, 1, -119775⟩, ⟨0x1D7A2, 0x1D7A8, 1, -119775⟩, ⟨0x1D7AA, 0x1D7BA, 1, -119801⟩,
   ⟨0x1D7BC, 0x1D7C2, 1, -119801⟩, ⟨0x1D7CE, 0x1D7D7, 1, -120734⟩, ⟨0x1D7D8, 0x1D7E1, 1, -120744⟩,
   ⟨0x1D7E2, 0x1D7EB, 1, -120754⟩, ⟨0x1D7EC, 0x1D7F5, 1, -120764⟩, ⟨0x1D7F6, 0x1D7FF, 1, -120774⟩,
   ⟨0x1E030, 0x1E038, 1, -121856⟩, ⟨0x1E039, 0x1E03B, 1, -121855⟩, ⟨0x1E03C, 0x1E046, 1, -121854⟩,
   ⟨0x1E051, 0x1E059, 1, -121889⟩, ⟨0x1E05F, 0x1E064, 1, -121884⟩, ⟨0x1EE0A, 0x1EE0D, 1, -124871⟩,
   ⟨0x1EE2A, 0x1EE2D, 1, -124903⟩, ⟨0x1EE8B, 0x1EE8D, 1, -124999⟩, ⟨0x1EEAB, 0x1EEAD, 1, -125031⟩,
   ⟨0x1F130, 0x1F149, 1, -127183⟩, ⟨0x1FBF0, 0x1FBF9, 1, -129984⟩]

/-- Ranges of characters that are forms of one character. -/
def merged : List (Nat × Nat × Nat) :=
  [(0xA0, 0xA0, 0x20), (0xAA, 0xAA, 0x61), (0xB2, 0xB2, 0x32), (0xB3, 0xB3, 0x33),
   (0xB9, 0xB9, 0x31), (0xBA, 0xBA, 0x6F), (0x2B0, 0x2B0, 0x68), (0x2B1, 0x2B1, 0x266),
   (0x2B2, 0x2B2, 0x6A), (0x2B3, 0x2B3, 0x72), (0x2B4, 0x2B4, 0x279), (0x2B5, 0x2B5, 0x27B),
   (0x2B6, 0x2B6, 0x281), (0x2B7, 0x2B7, 0x77), (0x2B8, 0x2B8, 0x79), (0x2E0, 0x2E0, 0x263),
   (0x2E1, 0x2E1, 0x6C), (0x2E2, 0x2E2, 0x73), (0x2E3, 0x2E3, 0x78), (0x2E4, 0x2E4, 0x295),
   (0x340, 0x340, 0x300), (0x341, 0x341, 0x301), (0x343, 0x343, 0x313), (0x374, 0x374, 0x2B9),
   (0x37E, 0x37E, 0x3B), (0x387, 0x387, 0xB7), (0x3D2, 0x3D2, 0x3C5), (0x3D3, 0x3D3, 0x3CD),
   (0x3D4, 0x3D4, 0x3CB), (0x3F2, 0x3F2, 0x3C3), (0x3F9, 0x3F9, 0x3C3), (0xF0C, 0xF0C, 0xF0B),
   (0x10FC, 0x10FC, 0x10DC), (0x1D2C, 0x1D2C, 0x61), (0x1D2D, 0x1D2D, 0xE6), (0x1D2E, 0x1D2E, 0x62),
   (0x1D30, 0x1D30, 0x64), (0x1D31, 0x1D31, 0x65), (0x1D32, 0x1D32, 0x1DD), (0x1D3C, 0x1D3C, 0x6F),
   (0x1D3D, 0x1D3D, 0x223), (0x1D3E, 0x1D3E, 0x70), (0x1D3F, 0x1D3F, 0x72), (0x1D40, 0x1D40, 0x74),
   (0x1D41, 0x1D41, 0x75), (0x1D42, 0x1D42, 0x77), (0x1D43, 0x1D43, 0x61), (0x1D44, 0x1D44, 0x250),
   (0x1D45, 0x1D45, 0x251), (0x1D46, 0x1D46, 0x1D02), (0x1D47, 0x1D47, 0x62),
   (0x1D48, 0x1D48, 0x64), (0x1D49, 0x1D49, 0x65), (0x1D4A, 0x1D4A, 0x259), (0x1D4B, 0x1D4B, 0x25B),
   (0x1D4C, 0x1D4C, 0x25C), (0x1D4D, 0x1D4D, 0x67), (0x1D4F, 0x1D4F, 0x6B), (0x1D50, 0x1D50, 0x6D),
   (0x1D51, 0x1D51, 0x14B), (0x1D52, 0x1D52, 0x6F), (0x1D53, 0x1D53, 0x254),
   (0x1D54, 0x1D54, 0x1D16), (0x1D55, 0x1D55, 0x1D17), (0x1D56, 0x1D56, 0x70),
   (0x1D57, 0x1D57, 0x74), (0x1D58, 0x1D58, 0x75), (0x1D59, 0x1D59, 0x1D1D),
   (0x1D5A, 0x1D5A, 0x26F), (0x1D5B, 0x1D5B, 0x76), (0x1D5C, 0x1D5C, 0x1D25),
   (0x1D60, 0x1D60, 0x3C6), (0x1D61, 0x1D61, 0x3C7), (0x1D62, 0x1D62, 0x69), (0x1D63, 0x1D63, 0x72),
   (0x1D64, 0x1D64, 0x75), (0x1D65, 0x1D65, 0x76), (0x1D66, 0x1D66, 0x3B2), (0x1D67, 0x1D67, 0x3B3),
   (0x1D68, 0x1D68, 0x3C1), (0x1D69, 0x1D69, 0x3C6), (0x1D6A, 0x1D6A, 0x3C7),
   (0x1D78, 0x1D78, 0x43D), (0x1D9B, 0x1D9B, 0x252), (0x1D9C, 0x1D9C, 0x63),
   (0x1D9D, 0x1D9D, 0x255), (0x1D9E, 0x1D9E, 0xF0), (0x1D9F, 0x1D9F, 0x25C), (0x1DA0, 0x1DA0, 0x66),
   (0x1DA1, 0x1DA1, 0x25F), (0x1DA2, 0x1DA2, 0x261), (0x1DA3, 0x1DA3, 0x265),
   (0x1DA7, 0x1DA7, 0x1D7B), (0x1DA8, 0x1DA8, 0x29D), (0x1DA9, 0x1DA9, 0x26D),
   (0x1DAA, 0x1DAA, 0x1D85), (0x1DAB, 0x1DAB, 0x29F), (0x1DAC, 0x1DAC, 0x271),
   (0x1DAD, 0x1DAD, 0x270), (0x1DB2, 0x1DB2, 0x278), (0x1DB3, 0x1DB3, 0x282),
   (0x1DB4, 0x1DB4, 0x283), (0x1DB5, 0x1DB5, 0x1AB), (0x1DB6, 0x1DB6, 0x289),
   (0x1DB7, 0x1DB7, 0x28A), (0x1DB8, 0x1DB8, 0x1D1C), (0x1DB9, 0x1DB9, 0x28B),
   (0x1DBA, 0x1DBA, 0x28C), (0x1DBB, 0x1DBB, 0x7A), (0x1DBF, 0x1DBF, 0x3B8),
   (0x1F71, 0x1F71, 0x3AC), (0x1F73, 0x1F73, 0x3AD), (0x1F75, 0x1F75, 0x3AE),
   (0x1F77, 0x1F77, 0x3AF), (0x1F79, 0x1F79, 0x3CC), (0x1F7B, 0x1F7B, 0x3CD),
   (0x1F7D, 0x1F7D, 0x3CE), (0x1FBB, 0x1FBB, 0x3AC), (0x1FC9, 0x1FC9, 0x3AD),
   (0x1FCB, 0x1FCB, 0x3AE), (0x1FDB, 0x1FDB, 0x3AF), (0x1FEB, 0x1FEB, 0x3CD),
   (0x1FEF, 0x1FEF, 0x60), (0x1FF9, 0x1FF9, 0x3CC), (0x1FFB, 0x1FFB, 0x3CE), (0x2000, 0x200A, 0x20),
   (0x2011, 0x2011, 0x2010), (0x202F, 0x202F, 0x20), (0x205F, 0x205F, 0x20), (0x2070, 0x2070, 0x30),
   (0x2071, 0x2071, 0x69), (0x207A, 0x207A, 0x2B), (0x207B, 0x207B, 0x2212), (0x207C, 0x207C, 0x3D),
   (0x207D, 0x207D, 0x28), (0x207E, 0x207E, 0x29), (0x207F, 0x207F, 0x6E), (0x208A, 0x208A, 0x2B),
   (0x208B, 0x208B, 0x2212), (0x208C, 0x208C, 0x3D), (0x208D, 0x208D, 0x28), (0x208E, 0x208E, 0x29),
   (0x2090, 0x2090, 0x61), (0x2091, 0x2091, 0x65), (0x2092, 0x2092, 0x6F), (0x2093, 0x2093, 0x78),
   (0x2094, 0x2094, 0x259), (0x2095, 0x2095, 0x68), (0x209A, 0x209A, 0x70), (0x209B, 0x209B, 0x73),
   (0x209C, 0x209C, 0x74), (0x2102, 0x2102, 0x63), (0x2107, 0x2107, 0x25B), (0x210A, 0x210A, 0x67),
   (0x210B, 0x210E, 0x68), (0x210F, 0x210F, 0x127), (0x2110, 0x2111, 0x69), (0x2112, 0x2113, 0x6C),
   (0x2115, 0x2115, 0x6E), (0x211C, 0x211D, 0x72), (0x2124, 0x2124, 0x7A), (0x2128, 0x2128, 0x7A),
   (0x212C, 0x212C, 0x62), (0x212D, 0x212D, 0x63), (0x212F, 0x2130, 0x65), (0x2131, 0x2131, 0x66),
   (0x2133, 0x2133, 0x6D), (0x2134, 0x2134, 0x6F), (0x2139, 0x2139, 0x69), (0x213C, 0x213C, 0x3C0),
   (0x213D, 0x213E, 0x3B3), (0x213F, 0x213F, 0x3C0), (0x2140, 0x2140, 0x2211),
   (0x2145, 0x2146, 0x64), (0x2147, 0x2147, 0x65), (0x2148, 0x2148, 0x69), (0x2149, 0x2149, 0x6A),
   (0x2160, 0x2160, 0x69), (0x2164, 0x2164, 0x76), (0x2169, 0x2169, 0x78), (0x216C, 0x216C, 0x6C),
   (0x216D, 0x216D, 0x63), (0x216E, 0x216E, 0x64), (0x216F, 0x216F, 0x6D), (0x2170, 0x2170, 0x69),
   (0x2174, 0x2174, 0x76), (0x2179, 0x2179, 0x78), (0x217C, 0x217C, 0x6C), (0x217D, 0x217D, 0x63),
   (0x217E, 0x217E, 0x64), (0x217F, 0x217F, 0x6D), (0x2329, 0x2329, 0x3008),
   (0x232A, 0x232A, 0x3009), (0x24EA, 0x24EA, 0x30), (0x2C7C, 0x2C7C, 0x6A), (0x2C7D, 0x2C7D, 0x76),
   (0x2D6F, 0x2D6F, 0x2D61), (0x3000, 0x3000, 0x20), (0x3002, 0x3002, 0x2E),
   (0x3036, 0x3036, 0x3012), (0x3131, 0x3131, 0x1100), (0x3132, 0x3132, 0x1101),
   (0x3133, 0x3133, 0x11AA), (0x3134, 0x3134, 0x1102), (0x3135, 0x3135, 0x11AC),
   (0x3136, 0x3136, 0x11AD), (0x3140, 0x3140, 0x111A), (0x3144, 0x3144, 0x1121),
   (0x3165, 0x3165, 0x1114), (0x3166, 0x3166, 0x1115), (0x3167, 0x3167, 0x11C7),
   (0x3168, 0x3168, 0x11C8), (0x3169, 0x3169, 0x11CC), (0x316A, 0x316A, 0x11CE),
   (0x316B, 0x316B, 0x11D3), (0x316C, 0x316C, 0x11D7), (0x316D, 0x316D, 0x11D9),
   (0x316E, 0x316E, 0x111C), (0x316F, 0x316F, 0x11DD), (0x3170, 0x3170, 0x11DF),
   (0x3171, 0x3171, 0x111D), (0x3172, 0x3172, 0x111E), (0x3173, 0x3173, 0x1120),
   (0x3174, 0x3174, 0x1122), (0x3175, 0x3175, 0x1123), (0x3176, 0x3176, 0x1127),
   (0x3177, 0x3177, 0x1129), (0x317D, 0x317D, 0x1132), (0x317E, 0x317E, 0x1136),
   (0x317F, 0x317F, 0x1140), (0x3180, 0x3180, 0x1147), (0x3181, 0x3181, 0x114C),
   (0x3182, 0x3182, 0x11F1), (0x3183, 0x3183, 0x11F2), (0x3187, 0x3187, 0x1184),
   (0x3188, 0x3188, 0x1185), (0x3189, 0x3189, 0x1188), (0x318A, 0x318A, 0x1191),
   (0x318B, 0x318B, 0x1192), (0x318C, 0x318C, 0x1194), (0x318D, 0x318D, 0x119E),
   (0x318E, 0x318E, 0x11A1), (0x3260, 0x3260, 0x1100), (0x3261, 0x3261, 0x1102),
   (0x3262, 0x3262, 0x1103), (0x3266, 0x3266, 0x1109), (0x3267, 0x3267, 0x110B),
   (0x3268, 0x3268, 0x110C), (0x326E, 0x326E, 0xAC00), (0x326F, 0x326F, 0xB098),
   (0x3270, 0x3270, 0xB2E4), (0x3271, 0x3271, 0xB77C), (0x3272, 0x3272, 0xB9C8),
   (0x3273, 0x3273, 0xBC14), (0x3274, 0x3274, 0xC0AC), (0x3275, 0x3275, 0xC544),
   (0x3276, 0x3276, 0xC790), (0x3277, 0x3277, 0xCC28), (0x3278, 0x3278, 0xCE74),
   (0x3279, 0x3279, 0xD0C0), (0x327A, 0x327A, 0xD30C), (0x327B, 0x327B, 0xD558),
   (0x327E, 0x327E, 0xC6B0), (0x32D0, 0x32D0, 0x30A2), (0x32D1, 0x32D1, 0x30A4),
   (0x32D2, 0x32D2, 0x30A6), (0x32D3, 0x32D3, 0x30A8), (0x32D4, 0x32D4, 0x30AA),
   (0x32D5, 0x32D5, 0x30AB), (0x32D6, 0x32D6, 0x30AD), (0x32D7, 0x32D7, 0x30AF),
   (0x32D8, 0x32D8, 0x30B1), (0x32D9, 0x32D9, 0x30B3), (0x32DA, 0x32DA, 0x30B5),
   (0x32DB, 0x32DB, 0x30B7), (0x32DC, 0x32DC, 0x30B9), (0x32DD, 0x32DD, 0x30BB),
   (0x32DE, 0x32DE, 0x30BD), (0x32DF, 0x32DF, 0x30BF), (0x32E0, 0x32E0, 0x30C1),
   (0x32E1, 0x32E1, 0x30C4), (0x32E2, 0x32E2, 0x30C6), (0x32E3, 0x32E3, 0x30C8),
   (0x32EA, 0x32EA, 0x30D2), (0x32EB, 0x32EB, 0x30D5), (0x32EC, 0x32EC, 0x30D8),
   (0x32ED, 0x32ED, 0x30DB), (0x32F3, 0x32F3, 0x30E4), (0x32F4, 0x32F4, 0x30E6),
   (0xA69C, 0xA69C, 0x44A), (0xA69D, 0xA69D, 0x44C), (0xA770, 0xA770, 0xA76F),
   (0xA7F2, 0xA7F2, 0x63), (0xA7F3, 0xA7F3, 0x66), (0xA7F4, 0xA7F4, 0x71), (0xA7F8, 0xA7F8, 0x127),
   (0xA7F9, 0xA7F9, 0x153), (0xAB5C, 0xAB5C, 0xA727), (0xAB5D, 0xAB5D, 0xAB37),
   (0xAB5E, 0xAB5E, 0x26B), (0xAB5F, 0xAB5F, 0xAB52), (0xAB69, 0xAB69, 0x28D),
   (0xFB20, 0xFB20, 0x5E2), (0xFB21, 0xFB21, 0x5D0), (0xFB22, 0xFB22, 0x5D3),
   (0xFB23, 0xFB23, 0x5D4), (0xFB27, 0xFB27, 0x5E8), (0xFB28, 0xFB28, 0x5EA),
   (0xFB29, 0xFB29, 0x2B), (0xFB50, 0xFB51, 0x671), (0xFB52, 0xFB55, 0x67B),
   (0xFB56, 0xFB59, 0x67E), (0xFB5A, 0xFB5D, 0x680), (0xFB5E, 0xFB61, 0x67A),
   (0xFB62, 0xFB65, 0x67F), (0xFB66, 0xFB69, 0x679), (0xFB6A, 0xFB6D, 0x6A4),
   (0xFB6E, 0xFB71, 0x6A6), (0xFB72, 0xFB75, 0x684), (0xFB76, 0xFB79, 0x683),
   (0xFB7A, 0xFB7D, 0x686), (0xFB7E, 0xFB81, 0x687), (0xFB82, 0xFB83, 0x68D),
   (0xFB84, 0xFB85, 0x68C), (0xFB86, 0xFB87, 0x68E), (0xFB88, 0xFB89, 0x688),
   (0xFB8A, 0xFB8B, 0x698), (0xFB8C, 0xFB8D, 0x691), (0xFB8E, 0xFB91, 0x6A9),
   (0xFB92, 0xFB95, 0x6AF), (0xFB96, 0xFB99, 0x6B3), (0xFB9A, 0xFB9D, 0x6B1),
   (0xFB9E, 0xFB9F, 0x6BA), (0xFBA0, 0xFBA3, 0x6BB), (0xFBA4, 0xFBA5, 0x6C0),
   (0xFBA6, 0xFBA9, 0x6C1), (0xFBAA, 0xFBAD, 0x6BE), (0xFBAE, 0xFBAF, 0x6D2),
   (0xFBB0, 0xFBB1, 0x6D3), (0xFBD3, 0xFBD6, 0x6AD), (0xFBD7, 0xFBD8, 0x6C7),
   (0xFBD9, 0xFBDA, 0x6C6), (0xFBDB, 0xFBDC, 0x6C8), (0xFBDE, 0xFBDF, 0x6CB),
   (0xFBE0, 0xFBE1, 0x6C5), (0xFBE2, 0xFBE3, 0x6C9), (0xFBE4, 0xFBE7, 0x6D0),
   (0xFBE8, 0xFBE9, 0x649), (0xFBFC, 0xFBFF, 0x6CC), (0xFE10, 0xFE10, 0x2C),
   (0xFE11, 0xFE11, 0x3001), (0xFE13, 0xFE13, 0x3A), (0xFE14, 0xFE14, 0x3B), (0xFE15, 0xFE15, 0x21),
   (0xFE16, 0xFE16, 0x3F), (0xFE17, 0xFE17, 0x3016), (0xFE18, 0xFE18, 0x3017),
   (0xFE31, 0xFE31, 0x2014), (0xFE32, 0xFE32, 0x2013), (0xFE33, 0xFE34, 0x5F),
   (0xFE35, 0xFE35, 0x28), (0xFE36, 0xFE36, 0x29), (0xFE37, 0xFE37, 0x7B), (0xFE38, 0xFE38, 0x7D),
   (0xFE39, 0xFE39, 0x3014), (0xFE3A, 0xFE3A, 0x3015), (0xFE3B, 0xFE3B, 0x3010),
   (0xFE3C, 0xFE3C, 0x3011), (0xFE3D, 0xFE3D, 0x300A), (0xFE3E, 0xFE3E, 0x300B),
   (0xFE3F, 0xFE3F, 0x3008), (0xFE40, 0xFE40, 0x3009), (0xFE47, 0xFE47, 0x5B),
   (0xFE48, 0xFE48, 0x5D), (0xFE4D, 0xFE4F, 0x5F), (0xFE50, 0xFE50, 0x2C), (0xFE51, 0xFE51, 0x3001),
   (0xFE54, 0xFE54, 0x3B), (0xFE55, 0xFE55, 0x3A), (0xFE56, 0xFE56, 0x3F), (0xFE57, 0xFE57, 0x21),
   (0xFE58, 0xFE58, 0x2014), (0xFE59, 0xFE59, 0x28), (0xFE5A, 0xFE5A, 0x29), (0xFE5B, 0xFE5B, 0x7B),
   (0xFE5C, 0xFE5C, 0x7D), (0xFE5D, 0xFE5D, 0x3014), (0xFE5E, 0xFE5E, 0x3015),
   (0xFE5F, 0xFE5F, 0x23), (0xFE60, 0xFE60, 0x26), (0xFE61, 0xFE61, 0x2A), (0xFE62, 0xFE62, 0x2B),
   (0xFE63, 0xFE63, 0x2D), (0xFE64, 0xFE64, 0x3C), (0xFE65, 0xFE65, 0x3E), (0xFE66, 0xFE66, 0x3D),
   (0xFE68, 0xFE68, 0x5C), (0xFE69, 0xFE69, 0x24), (0xFE6A, 0xFE6A, 0x25), (0xFE6B, 0xFE6B, 0x40),
   (0xFE80, 0xFE80, 0x621), (0xFE81, 0xFE82, 0x622), (0xFE83, 0xFE84, 0x623),
   (0xFE85, 0xFE86, 0x624), (0xFE87, 0xFE88, 0x625), (0xFE89, 0xFE8C, 0x626),
   (0xFE8D, 0xFE8E, 0x627), (0xFE8F, 0xFE92, 0x628), (0xFE93, 0xFE94, 0x629),
   (0xFE95, 0xFE98, 0x62A), (0xFE99, 0xFE9C, 0x62B), (0xFE9D, 0xFEA0, 0x62C),
   (0xFEA1, 0xFEA4, 0x62D), (0xFEA5, 0xFEA8, 0x62E), (0xFEA9, 0xFEAA, 0x62F),
   (0xFEAB, 0xFEAC, 0x630), (0xFEAD, 0xFEAE, 0x631), (0xFEAF, 0xFEB0, 0x632),
   (0xFEB1, 0xFEB4, 0x633), (0xFEB5, 0xFEB8, 0x634), (0xFEB9, 0xFEBC, 0x635),
   (0xFEBD, 0xFEC0, 0x636), (0xFEC1, 0xFEC4, 0x637), (0xFEC5, 0xFEC8, 0x638),
   (0xFEC9, 0xFECC, 0x639), (0xFECD, 0xFED0, 0x63A), (0xFED1, 0xFED4, 0x641),
   (0xFED5, 0xFED8, 0x642), (0xFED9, 0xFEDC, 0x643), (0xFEDD, 0xFEE0, 0x644),
   (0xFEE1, 0xFEE4, 0x645), (0xFEE5, 0xFEE8, 0x646), (0xFEE9, 0xFEEC, 0x647),
   (0xFEED, 0xFEEE, 0x648), (0xFEEF, 0xFEF0, 0x649), (0xFEF1, 0xFEF4, 0x64A),
   (0xFF5F, 0xFF5F, 0x2985), (0xFF60, 0xFF60, 0x2986), (0xFF61, 0xFF61, 0x2E),
   (0xFF62, 0xFF62, 0x300C), (0xFF63, 0xFF63, 0x300D), (0xFF64, 0xFF64, 0x3001),
   (0xFF65, 0xFF65, 0x30FB), (0xFF66, 0xFF66, 0x30F2), (0xFF67, 0xFF67, 0x30A1),
   (0xFF68, 0xFF68, 0x30A3), (0xFF69, 0xFF69, 0x30A5), (0xFF6A, 0xFF6A, 0x30A7),
   (0xFF6B, 0xFF6B, 0x30A9), (0xFF6C, 0xFF6C, 0x30E3), (0xFF6D, 0xFF6D, 0x30E5),
   (0xFF6E, 0xFF6E, 0x30E7), (0xFF6F, 0xFF6F, 0x30C3), (0xFF70, 0xFF70, 0x30FC),
   (0xFF71, 0xFF71, 0x30A2), (0xFF72, 0xFF72, 0x30A4), (0xFF73, 0xFF73, 0x30A6),
   (0xFF74, 0xFF74, 0x30A8), (0xFF75, 0xFF75, 0x30AA), (0xFF76, 0xFF76, 0x30AB),
   (0xFF77, 0xFF77, 0x30AD), (0xFF78, 0xFF78, 0x30AF), (0xFF79, 0xFF79, 0x30B1),
   (0xFF7A, 0xFF7A, 0x30B3), (0xFF7B, 0xFF7B, 0x30B5), (0xFF7C, 0xFF7C, 0x30B7),
   (0xFF7D, 0xFF7D, 0x30B9), (0xFF7E, 0xFF7E, 0x30BB), (0xFF7F, 0xFF7F, 0x30BD),
   (0xFF80, 0xFF80, 0x30BF), (0xFF81, 0xFF81, 0x30C1), (0xFF82, 0xFF82, 0x30C4),
   (0xFF83, 0xFF83, 0x30C6), (0xFF84, 0xFF84, 0x30C8), (0xFF8B, 0xFF8B, 0x30D2),
   (0xFF8C, 0xFF8C, 0x30D5), (0xFF8D, 0xFF8D, 0x30D8), (0xFF8E, 0xFF8E, 0x30DB),
   (0xFF94, 0xFF94, 0x30E4), (0xFF95, 0xFF95, 0x30E6), (0xFF9C, 0xFF9C, 0x30EF),
   (0xFF9D, 0xFF9D, 0x30F3), (0xFF9E, 0xFF9E, 0x3099), (0xFF9F, 0xFF9F, 0x309A),
   (0xFFA1, 0xFFA1, 0x1100), (0xFFA2, 0xFFA2, 0x1101), (0xFFA3, 0xFFA3, 0x11AA),
   (0xFFA4, 0xFFA4, 0x1102), (0xFFA5, 0xFFA5, 0x11AC), (0xFFA6, 0xFFA6, 0x11AD),
   (0xFFB0, 0xFFB0, 0x111A), (0xFFB4, 0xFFB4, 0x1121), (0xFFE0, 0xFFE0, 0xA2),
   (0xFFE1, 0xFFE1, 0xA3), (0xFFE2, 0xFFE2, 0xAC), (0xFFE4, 0xFFE4, 0xA6), (0xFFE5, 0xFFE5, 0xA5),
   (0xFFE6, 0xFFE6, 0x20A9), (0xFFE8, 0xFFE8, 0x2502), (0xFFED, 0xFFED, 0x25A0),
   (0xFFEE, 0xFFEE, 0x25CB), (0x10781, 0x10781, 0x2D0), (0x10782, 0x10782, 0x2D1),
   (0x10783, 0x10783, 0xE6), (0x10784, 0x10784, 0x299), (0x10785, 0x10785, 0x253),
   (0x10787, 0x10787, 0x2A3), (0x10788, 0x10788, 0xAB66), (0x10789, 0x10789, 0x2A5),
   (0x1078A, 0x1078A, 0x2A4), (0x1078B, 0x1078B, 0x256), (0x1078C, 0x1078C, 0x257),
   (0x1078D, 0x1078D, 0x1D91), (0x1078E, 0x1078E, 0x258), (0x1078F, 0x1078F, 0x25E),
   (0x10790, 0x10790, 0x2A9), (0x10791, 0x10791, 0x264), (0x10792, 0x10792, 0x262),
   (0x10793, 0x10793, 0x260), (0x10794, 0x10794, 0x29B), (0x10795, 0x10795, 0x127),
   (0x10796, 0x10796, 0x29C), (0x10797, 0x10797, 0x267), (0x10798, 0x10798, 0x284),
   (0x10799, 0x10799, 0x2AA), (0x1079A, 0x1079A, 0x2AB), (0x1079B, 0x1079B, 0x26C),
   (0x1079C, 0x1079C, 0x1DF04), (0x1079D, 0x1079D, 0xA78E), (0x1079E, 0x1079E, 0x26E),
   (0x1079F, 0x1079F, 0x1DF05), (0x107A0, 0x107A0, 0x28E), (0x107A1, 0x107A1, 0x1DF06),
   (0x107A2, 0x107A2, 0xF8), (0x107A3, 0x107A3, 0x276), (0x107A4, 0x107A4, 0x277),
   (0x107A5, 0x107A5, 0x71), (0x107A6, 0x107A6, 0x27A), (0x107A7, 0x107A7, 0x1DF08),
   (0x107A8, 0x107A8, 0x27D), (0x107A9, 0x107A9, 0x27E), (0x107AA, 0x107AA, 0x280),
   (0x107AB, 0x107AB, 0x2A8), (0x107AC, 0x107AC, 0x2A6), (0x107AD, 0x107AD, 0xAB67),
   (0x107AE, 0x107AE, 0x2A7), (0x107AF, 0x107AF, 0x288), (0x107B0, 0x107B0, 0x2C71),
   (0x107B2, 0x107B2, 0x28F), (0x107B3, 0x107B3, 0x2A1), (0x107B4, 0x107B4, 0x2A2),
   (0x107B5, 0x107B5, 0x298), (0x107B9, 0x107B9, 0x1DF0A), (0x107BA, 0x107BA, 0x1DF1E),
   (0x1D49C, 0x1D49C, 0x61), (0x1D49E, 0x1D49E, 0x63), (0x1D49F, 0x1D49F, 0x64),
   (0x1D4A2, 0x1D4A2, 0x67), (0x1D4A5, 0x1D4A5, 0x6A), (0x1D4A6, 0x1D4A6, 0x6B),
   (0x1D4BB, 0x1D4BB, 0x66), (0x1D504, 0x1D504, 0x61), (0x1D505, 0x1D505, 0x62),
   (0x1D538, 0x1D538, 0x61), (0x1D539, 0x1D539, 0x62), (0x1D546, 0x1D546, 0x6F),
   (0x1D6A4, 0x1D6A4, 0x131), (0x1D6A5, 0x1D6A5, 0x237), (0x1D6B9, 0x1D6B9, 0x3B8),
   (0x1D6C1, 0x1D6C1, 0x2207), (0x1D6D3, 0x1D6D3, 0x3C3), (0x1D6DB, 0x1D6DB, 0x2202),
   (0x1D6DC, 0x1D6DC, 0x3B5), (0x1D6DD, 0x1D6DD, 0x3B8), (0x1D6DE, 0x1D6DE, 0x3BA),
   (0x1D6DF, 0x1D6DF, 0x3C6), (0x1D6E0, 0x1D6E0, 0x3C1), (0x1D6E1, 0x1D6E1, 0x3C0),
   (0x1D6F3, 0x1D6F3, 0x3B8), (0x1D6FB, 0x1D6FB, 0x2207), (0x1D70D, 0x1D70D, 0x3C3),
   (0x1D715, 0x1D715, 0x2202), (0x1D716, 0x1D716, 0x3B5), (0x1D717, 0x1D717, 0x3B8),
   (0x1D718, 0x1D718, 0x3BA), (0x1D719, 0x1D719, 0x3C6), (0x1D71A, 0x1D71A, 0x3C1),
   (0x1D71B, 0x1D71B, 0x3C0), (0x1D72D, 0x1D72D, 0x3B8), (0x1D735, 0x1D735, 0x2207),
   (0x1D747, 0x1D747, 0x3C3), (0x1D74F, 0x1D74F, 0x2202), (0x1D750, 0x1D750, 0x3B5),
   (0x1D751, 0x1D751, 0x3B8), (0x1D752, 0x1D752, 0x3BA), (0x1D753, 0x1D753, 0x3C6),
   (0x1D754, 0x1D754, 0x3C1), (0x1D755, 0x1D755, 0x3C0), (0x1D767, 0x1D767, 0x3B8),
   (0x1D76F, 0x1D76F, 0x2207), (0x1D781, 0x1D781, 0x3C3), (0x1D789, 0x1D789, 0x2202),
   (0x1D78A, 0x1D78A, 0x3B5), (0x1D78B, 0x1D78B, 0x3B8), (0x1D78C, 0x1D78C, 0x3BA),
   (0x1D78D, 0x1D78D, 0x3C6), (0x1D78E, 0x1D78E, 0x3C1), (0x1D78F, 0x1D78F, 0x3C0),
   (0x1D7A1, 0x1D7A1, 0x3B8), (0x1D7A9, 0x1D7A9, 0x2207), (0x1D7BB, 0x1D7BB, 0x3C3),
   (0x1D7C3, 0x1D7C3, 0x2202), (0x1D7C4, 0x1D7C4, 0x3B5), (0x1D7C5, 0x1D7C5, 0x3B8),
   (0x1D7C6, 0x1D7C6, 0x3BA), (0x1D7C7, 0x1D7C7, 0x3C6), (0x1D7C8, 0x1D7C8, 0x3C1),
   (0x1D7C9, 0x1D7C9, 0x3C0), (0x1D7CA, 0x1D7CB, 0x3DD), (0x1E047, 0x1E047, 0x44B),
   (0x1E048, 0x1E048, 0x44D), (0x1E049, 0x1E049, 0x44E), (0x1E04A, 0x1E04A, 0xA689),
   (0x1E04B, 0x1E04B, 0x4D9), (0x1E04C, 0x1E04C, 0x456), (0x1E04D, 0x1E04D, 0x458),
   (0x1E04E, 0x1E04E, 0x4E9), (0x1E04F, 0x1E04F, 0x4AF), (0x1E050, 0x1E050, 0x4CF),
   (0x1E05A, 0x1E05A, 0x43A), (0x1E05B, 0x1E05B, 0x43B), (0x1E05C, 0x1E05C, 0x43E),
   (0x1E05D, 0x1E05D, 0x43F), (0x1E05E, 0x1E05E, 0x441), (0x1E065, 0x1E065, 0x44A),
   (0x1E066, 0x1E066, 0x44B), (0x1E067, 0x1E067, 0x491), (0x1E068, 0x1E068, 0x456),
   (0x1E069, 0x1E069, 0x455), (0x1E06A, 0x1E06A, 0x45F), (0x1E06B, 0x1E06B, 0x4AB),
   (0x1E06C, 0x1E06C, 0xA651), (0x1E06D, 0x1E06D, 0x4B1), (0x1EE00, 0x1EE00, 0x627),
   (0x1EE01, 0x1EE01, 0x628), (0x1EE02, 0x1EE02, 0x62C), (0x1EE03, 0x1EE03, 0x62F),
   (0x1EE05, 0x1EE05, 0x648), (0x1EE06, 0x1EE06, 0x632), (0x1EE07, 0x1EE07, 0x62D),
   (0x1EE08, 0x1EE08, 0x637), (0x1EE09, 0x1EE09, 0x64A), (0x1EE0E, 0x1EE0E, 0x633),
   (0x1EE0F, 0x1EE0F, 0x639), (0x1EE10, 0x1EE10, 0x641), (0x1EE11, 0x1EE11, 0x635),
   (0x1EE12, 0x1EE12, 0x642), (0x1EE13, 0x1EE13, 0x631), (0x1EE14, 0x1EE14, 0x634),
   (0x1EE15, 0x1EE15, 0x62A), (0x1EE16, 0x1EE16, 0x62B), (0x1EE17, 0x1EE17, 0x62E),
   (0x1EE18, 0x1EE18, 0x630), (0x1EE19, 0x1EE19, 0x636), (0x1EE1A, 0x1EE1A, 0x638),
   (0x1EE1B, 0x1EE1B, 0x63A), (0x1EE1C, 0x1EE1C, 0x66E), (0x1EE1D, 0x1EE1D, 0x6BA),
   (0x1EE1E, 0x1EE1E, 0x6A1), (0x1EE1F, 0x1EE1F, 0x66F), (0x1EE21, 0x1EE21, 0x628),
   (0x1EE22, 0x1EE22, 0x62C), (0x1EE24, 0x1EE24, 0x647), (0x1EE27, 0x1EE27, 0x62D),
   (0x1EE29, 0x1EE29, 0x64A), (0x1EE2E, 0x1EE2E, 0x633), (0x1EE2F, 0x1EE2F, 0x639),
   (0x1EE30, 0x1EE30, 0x641), (0x1EE31, 0x1EE31, 0x635), (0x1EE32, 0x1EE32, 0x642),
   (0x1EE34, 0x1EE34, 0x634), (0x1EE35, 0x1EE35, 0x62A), (0x1EE36, 0x1EE36, 0x62B),
   (0x1EE37, 0x1EE37, 0x62E), (0x1EE39, 0x1EE39, 0x636), (0x1EE3B, 0x1EE3B, 0x63A),
   (0x1EE42, 0x1EE42, 0x62C), (0x1EE47, 0x1EE47, 0x62D), (0x1EE49, 0x1EE49, 0x64A),
   (0x1EE4B, 0x1EE4B, 0x644), (0x1EE4D, 0x1EE4D, 0x646), (0x1EE4E, 0x1EE4E, 0x633),
   (0x1EE4F, 0x1EE4F, 0x639), (0x1EE51, 0x1EE51, 0x635), (0x1EE52, 0x1EE52, 0x642),
   (0x1EE54, 0x1EE54, 0x634), (0x1EE57, 0x1EE57, 0x62E), (0x1EE59, 0x1EE59, 0x636),
   (0x1EE5B, 0x1EE5B, 0x63A), (0x1EE5D, 0x1EE5D, 0x6BA), (0x1EE5F, 0x1EE5F, 0x66F),
   (0x1EE61, 0x1EE61, 0x628), (0x1EE62, 0x1EE62, 0x62C), (0x1EE64, 0x1EE64, 0x647),
   (0x1EE67, 0x1EE67, 0x62D), (0x1EE68, 0x1EE68, 0x637), (0x1EE69, 0x1EE69, 0x64A),
   (0x1EE6A, 0x1EE6A, 0x643), (0x1EE6C, 0x1EE6C, 0x645), (0x1EE6D, 0x1EE6D, 0x646),
   (0x1EE6E, 0x1EE6E, 0x633), (0x1EE6F, 0x1EE6F, 0x639), (0x1EE70, 0x1EE70, 0x641),
   (0x1EE71, 0x1EE71, 0x635), (0x1EE72, 0x1EE72, 0x642), (0x1EE74, 0x1EE74, 0x634),
   (0x1EE75, 0x1EE75, 0x62A), (0x1EE76, 0x1EE76, 0x62B), (0x1EE77, 0x1EE77, 0x62E),
   (0x1EE79, 0x1EE79, 0x636), (0x1EE7A, 0x1EE7A, 0x638), (0x1EE7B, 0x1EE7B, 0x63A),
   (0x1EE7C, 0x1EE7C, 0x66E), (0x1EE7E, 0x1EE7E, 0x6A1), (0x1EE80, 0x1EE80, 0x627),
   (0x1EE81, 0x1EE81, 0x628), (0x1EE82, 0x1EE82, 0x62C), (0x1EE83, 0x1EE83, 0x62F),
   (0x1EE84, 0x1EE84, 0x647), (0x1EE85, 0x1EE85, 0x648), (0x1EE86, 0x1EE86, 0x632),
   (0x1EE87, 0x1EE87, 0x62D), (0x1EE88, 0x1EE88, 0x637), (0x1EE89, 0x1EE89, 0x64A),
   (0x1EE8E, 0x1EE8E, 0x633), (0x1EE8F, 0x1EE8F, 0x639), (0x1EE90, 0x1EE90, 0x641),
   (0x1EE91, 0x1EE91, 0x635), (0x1EE92, 0x1EE92, 0x642), (0x1EE93, 0x1EE93, 0x631),
   (0x1EE94, 0x1EE94, 0x634), (0x1EE95, 0x1EE95, 0x62A), (0x1EE96, 0x1EE96, 0x62B),
   (0x1EE97, 0x1EE97, 0x62E), (0x1EE98, 0x1EE98, 0x630), (0x1EE99, 0x1EE99, 0x636),
   (0x1EE9A, 0x1EE9A, 0x638), (0x1EE9B, 0x1EE9B, 0x63A), (0x1EEA1, 0x1EEA1, 0x628),
   (0x1EEA2, 0x1EEA2, 0x62C), (0x1EEA3, 0x1EEA3, 0x62F), (0x1EEA5, 0x1EEA5, 0x648),
   (0x1EEA6, 0x1EEA6, 0x632), (0x1EEA7, 0x1EEA7, 0x62D), (0x1EEA8, 0x1EEA8, 0x637),
   (0x1EEA9, 0x1EEA9, 0x64A), (0x1EEAE, 0x1EEAE, 0x633), (0x1EEAF, 0x1EEAF, 0x639),
   (0x1EEB0, 0x1EEB0, 0x641), (0x1EEB1, 0x1EEB1, 0x635), (0x1EEB2, 0x1EEB2, 0x642),
   (0x1EEB3, 0x1EEB3, 0x631), (0x1EEB4, 0x1EEB4, 0x634), (0x1EEB5, 0x1EEB5, 0x62A),
   (0x1EEB6, 0x1EEB6, 0x62B), (0x1EEB7, 0x1EEB7, 0x62E), (0x1EEB8, 0x1EEB8, 0x630),
   (0x1EEB9, 0x1EEB9, 0x636), (0x1EEBA, 0x1EEBA, 0x638), (0x1EEBB, 0x1EEBB, 0x63A),
   (0x1F12B, 0x1F12B, 0x63), (0x1F12C, 0x1F12C, 0x72), (0x1F202, 0x1F202, 0x30B5),
   (0x1F213, 0x1F213, 0x30C7)]

/-- Ideographs in another form: from the given code point on, one after the other becomes the
next character of the text. -/
def ideographs : List (Nat × String) :=
  [(0x2E9F, "母"), (0x2EF3, "龟"),
   (0x2F00, "一丨丶丿乙亅二亠人儿入八冂冖冫几凵刀力勹匕匚匸十卜卩厂厶又口囗土士夂夊夕"),
   (0x2F24, "大女子宀寸小尢尸屮山巛工己巾干幺广廴廾弋弓彐彡彳心戈戶手支攴文斗斤方无日"),
   (0x2F48, "曰月木欠止歹殳毋比毛氏气水火爪父爻爿片牙牛犬玄玉瓜瓦甘生用田疋疒癶白皮皿"),
   (0x2F6C, "目矛矢石示禸禾穴立竹米糸缶网羊羽老而耒耳聿肉臣自至臼舌舛舟艮色艸虍虫血行"),
   (0x2F90, "衣襾見角言谷豆豕豸貝赤走足身車辛辰辵邑酉釆里金長門阜隶隹雨靑非面革韋韭音"),
   (0x2FB4, "頁風飛食首香馬骨高髟鬥鬯鬲鬼魚鳥鹵鹿麥麻黃黍黑黹黽鼎鼓鼠鼻齊齒龍龜龠"), (0x3038, "十卄卅"),
   (0x3192, "一二三四上中下甲乙丙丁天地人"), (0x3244, "問幼文箏"),
   (0x3280, "一二三四五六七八九十月火水木金土日株有社名特財祝労秘男女適優印注項休写正"),
   (0x32A4, "上中下左右医宗学監企資協夜"),
   (0xF900, "豈更車賈滑串句龜龜契金喇奈懶癩羅蘿螺裸邏樂洛烙珞落酪駱亂卵欄爛蘭鸞嵐濫藍"),
   (0xF924, "襤拉臘蠟廊朗浪狼郎來冷勞擄櫓爐盧老蘆虜路露魯鷺碌祿綠菉錄鹿論壟弄籠聾牢磊"),
   (0xF948, "賂雷壘屢樓淚漏累縷陋勒肋凜凌稜綾菱陵讀拏樂諾丹寧怒率異北磻便復不泌數索參"),
   (0xF96C, "塞省葉說殺辰沈拾若掠略亮兩凉梁糧良諒量勵呂女廬旅濾礪閭驪麗黎力曆歷轢年憐"),
   (0xF990, "戀撚漣煉璉秊練聯輦蓮連鍊列劣咽烈裂說廉念捻殮簾獵令囹寧嶺怜玲瑩羚聆鈴零靈"),
   (0xF9B4, "領例禮醴隸惡了僚寮尿料樂燎療蓼遼龍暈阮劉杻柳流溜琉留硫紐類六戮陸倫崙淪輪"),
   (0xF9D8, "律慄栗率隆利吏履易李梨泥理痢罹裏裡里離匿溺吝燐璘藺隣鱗麟林淋臨立笠粒狀炙"),
   (0xF9FC, "識什茶刺切度拓糖宅洞暴輻行降見廓兀嗀"), (0xFA10, "塚"), (0xFA12, "晴"),
   (0xFA15, "凞猪益礼神祥福靖精羽"), (0xFA20, "蘒"), (0xFA22, "諸"),
   (0xFA25, "逸都"), (0xFA2A, "飯飼館鶴郞隷侮僧免勉勤卑喝嘆器塀墨層屮悔慨憎懲敏既暑梅海渚漢煮爫琢碑社祉"),
   (0xFA4E, "祈祐祖祝禍禎穀突節練縉繁署者臭艹艹著褐視謁謹賓贈辶逸難響頻恵𤋮舘"),
   (0xFA70, "並况全侀充冀勇勺喝啕喙嗢塚墳奄奔婢嬨廒廙彩徭惘慎愈憎慠懲戴揄搜摒敖晴朗望"),
   (0xFA94, "杖歹殺流滛滋漢瀞煮瞧爵犯猪瑱甆画瘝瘟益盛直睊着磌窱節类絛練缾者荒華蝹襁覆"),
   (0xFAB8, "視調諸請謁諾諭謹變贈輸遲醙鉶陼難靖韛響頋頻鬒龜𢡊𢡄𣏕㮝䀘䀹𥉉𥳐𧻓齃龎"), (0x1F210, "手字双"),
   (0x1F214, "二多解天交映無料前後再新初終生販声吹演投捕一三遊左中右指走打禁空合満有月"),
   (0x1F238, "申割営配"), (0x1F250, "得可"),
   (0x2F800, "丽丸乁𠄢你侮侻倂偺備僧像㒞𠘺免兔兤具𠔜㒹內再𠕋冗冤仌冬况𩇟凵刃㓟刻剆割剷"),
   (0x2F824, "㔕勇勉勤勺包匆北卉卑博即卽卿卿卿𠨬灰及叟𠭣叫叱吆咞吸呈周咢哶唐啓啣善善喙"),
   (0x2F848, "喫喳嗂圖嘆圗噑噴切壮城埴堍型堲報墬𡓤売壷夆多夢奢𡚨𡛪姬娛娧姘婦㛮㛼嬈嬾嬾"),
   (0x2F86C, "𡧈寃寘寧寳𡬘寿将当尢㞁屠屮峀岍𡷤嵃𡷦嵮嵫嵼巡巢㠯巽帨帽幩㡢𢆃㡼庰庳庶廊𪎒"),
   (0x2F890, "廾𢌱𢌱舁弢弢㣇𣊸𦇚形彫㣣徚忍志忹悁㤺㤜悔𢛔惇慈慌慎慌慺憎憲憤憯懞懲懶成戛"),
   (0x2F8B4, "扝抱拔捐𢬌挽拼捨掃揤𢯱搢揅掩㨮摩摾撝摷㩬敏敬𣀊旣書晉㬙暑㬈㫤冒冕最暜肭䏙"),
   (0x2F8D8, "朗望朡杞杓𣏃㭉柺枅桒梅𣑭梎栟椔㮝楂榣槪檨𣚣櫛㰘次𣢧歔㱎歲殟殺殻𣪍𡴋𣫺汎𣲼"),
   (0x2F8FC, "沿泍汧洖派海流浩浸涅𣴞洴港湮㴳滋滇𣻑淹潮𣽞𣾎濆瀹瀞瀛㶖灊災灷炭𠔥煅𤉣熜𤎫"),
   (0x2F920, "爨爵牐𤘈犀犕𤜵𤠔獺王㺬玥㺸㺸瑇瑜瑱璅瓊㼛甤𤰶甾𤲒異𢆟瘐𤾡𤾸𥁄㿼䀈直𥃳𥃲𥄙"),
   (0x2F944, "𥄳眞真真睊䀹瞋䁆䂖𥐝硎碌磌䃣𥘦祖𥚚𥛅福秫䄯穀穊穏𥥼𥪧𥪧竮䈂𥮫篆築䈧𥲀糒䊠"),
   (0x2F968, "糨糣紀𥾆絣䌁緇縂繅䌴𦈨𦉇䍙𦋙罺𦌾羕翺者𦓚𦔣聠𦖨聰𣍟䏕育脃䐋脾媵𦞧𦞵𣎓𣎜舁"),
   (0x2F98C, "舄辞䑫芑芋芝劳花芳芽苦𦬼若茝荣莭茣莽菧著荓菊菌菜𦰶𦵫𦳕䔫蓱蓳蔖𧏊蕤𦼬䕝䕡"),
   (0x2F9B0, "𦾱𧃒䕫虐虜虧虩蚩蚈蜎蛢蝹蜨蝫螆䗗蟡蠁䗹衠衣𧙧裗裞䘵裺㒻𧢮𧥦䚾䛇誠諭變豕𧲨"),
   (0x2F9D4, "貫賁贛起𧼯𠠄跋趼跰𠣞軔輸𨗒𨗭邔郱鄑𨜮鄛鈸鋗鋘鉼鏹鐕𨯺開䦕閷𨵷䧦雃嶲霣𩅅𩈚"),
   (0x2F9F8, "䩮䩶韠𩐊䪲𩒖頋頋頩𩖶飢䬳餩馧駂駾䯎𩬰鬒鱀鳽䳎䳭鵧𪃎䳸𪄅𪈎𪊑麻䵖黹黾鼅鼏鼖"), (0x2FA1C, "鼻𪘀")]

/-- Characters that become several. -/
def spelled : List (Nat × String) :=
  [(0xA8, " \u0308"), (0xAF, " \u0304"), (0xB4, " \u0301"), (0xB8, " \u0327"), (0xBC, "1\u20444"),
   (0xBD, "1\u20442"), (0xBE, "3\u20444"), (0x130, "i\u0307"), (0x132, "ij"), (0x133, "ij"),
   (0x13F, "l\u00b7"), (0x140, "l\u00b7"), (0x149, "\u02bcn"), (0x1C4, "d\u017e"),
   (0x1C5, "d\u017e"), (0x1C6, "d\u017e"), (0x1C7, "lj"), (0x1C8, "lj"), (0x1C9, "lj"),
   (0x1CA, "nj"), (0x1CB, "nj"), (0x1CC, "nj"), (0x1F1, "dz"), (0x1F2, "dz"), (0x1F3, "dz"),
   (0x2D8, " \u0306"), (0x2D9, " \u0307"), (0x2DA, " \u030a"), (0x2DB, " \u0328"),
   (0x2DC, " \u0303"), (0x2DD, " \u030b"), (0x344, "\u0308\u0301"), (0x37A, " \u03b9"),
   (0x384, " \u0301"), (0x385, " \u0308\u0301"), (0x587, "\u0565\u0582"), (0x675, "\u0627\u0674"),
   (0x676, "\u0648\u0674"), (0x677, "\u06c7\u0674"), (0x678, "\u064a\u0674"),
   (0x958, "\u0915\u093c"), (0x959, "\u0916\u093c"), (0x95A, "\u0917\u093c"),
   (0x95B, "\u091c\u093c"), (0x95C, "\u0921\u093c"), (0x95D, "\u0922\u093c"),
   (0x95E, "\u092b\u093c"), (0x95F, "\u092f\u093c"), (0x9DC, "\u09a1\u09bc"),
   (0x9DD, "\u09a2\u09bc"), (0x9DF, "\u09af\u09bc"), (0xA33, "\u0a32\u0a3c"),
   (0xA36, "\u0a38\u0a3c"), (0xA59, "\u0a16\u0a3c"), (0xA5A, "\u0a17\u0a3c"),
   (0xA5B, "\u0a1c\u0a3c"), (0xA5E, "\u0a2b\u0a3c"), (0xB5C, "\u0b21\u0b3c"),
   (0xB5D, "\u0b22\u0b3c"), (0xE33, "\u0e4d\u0e32"), (0xEB3, "\u0ecd\u0eb2"),
   (0xEDC, "\u0eab\u0e99"), (0xEDD, "\u0eab\u0ea1"), (0xF43, "\u0f42\u0fb7"),
   (0xF4D, "\u0f4c\u0fb7"), (0xF52, "\u0f51\u0fb7"), (0xF57, "\u0f56\u0fb7"),
   (0xF5C, "\u0f5b\u0fb7"), (0xF69, "\u0f40\u0fb5"), (0xF73, "\u0f71\u0f72"),
   (0xF75, "\u0f71\u0f74"), (0xF76, "\u0fb2\u0f80"), (0xF77, "\u0fb2\u0f71\u0f80"),
   (0xF78, "\u0fb3\u0f80"), (0xF79, "\u0fb3\u0f71\u0f80"), (0xF81, "\u0f71\u0f80"),
   (0xF93, "\u0f92\u0fb7"), (0xF9D, "\u0f9c\u0fb7"), (0xFA2, "\u0fa1\u0fb7"),
   (0xFA7, "\u0fa6\u0fb7"), (0xFAC, "\u0fab\u0fb7"), (0xFB9, "\u0f90\u0fb5"), (0x1E9A, "a\u02be"),
   (0x1F80, "\u1f00\u03b9"), (0x1F81, "\u1f01\u03b9"), (0x1F82, "\u1f02\u03b9"),
   (0x1F83, "\u1f03\u03b9"), (0x1F84, "\u1f04\u03b9"), (0x1F85, "\u1f05\u03b9"),
   (0x1F86, "\u1f06\u03b9"), (0x1F87, "\u1f07\u03b9"), (0x1F88, "\u1f00\u03b9"),
   (0x1F89, "\u1f01\u03b9"), (0x1F8A, "\u1f02\u03b9"), (0x1F8B, "\u1f03\u03b9"),
   (0x1F8C, "\u1f04\u03b9"), (0x1F8D, "\u1f05\u03b9"), (0x1F8E, "\u1f06\u03b9"),
   (0x1F8F, "\u1f07\u03b9"), (0x1F90, "\u1f20\u03b9"), (0x1F91, "\u1f21\u03b9"),
   (0x1F92, "\u1f22\u03b9"), (0x1F93, "\u1f23\u03b9"), (0x1F94, "\u1f24\u03b9"),
   (0x1F95, "\u1f25\u03b9"), (0x1F96, "\u1f26\u03b9"), (0x1F97, "\u1f27\u03b9"),
   (0x1F98, "\u1f20\u03b9"), (0x1F99, "\u1f21\u03b9"), (0x1F9A, "\u1f22\u03b9"),
   (0x1F9B, "\u1f23\u03b9"), (0x1F9C, "\u1f24\u03b9"), (0x1F9D, "\u1f25\u03b9"),
   (0x1F9E, "\u1f26\u03b9"), (0x1F9F, "\u1f27\u03b9"), (0x1FA0, "\u1f60\u03b9"),
   (0x1FA1, "\u1f61\u03b9"), (0x1FA2, "\u1f62\u03b9"), (0x1FA3, "\u1f63\u03b9"),
   (0x1FA4, "\u1f64\u03b9"), (0x1FA5, "\u1f65\u03b9"), (0x1FA6, "\u1f66\u03b9"),
   (0x1FA7, "\u1f67\u03b9"), (0x1FA8, "\u1f60\u03b9"), (0x1FA9, "\u1f61\u03b9"),
   (0x1FAA, "\u1f62\u03b9"), (0x1FAB, "\u1f63\u03b9"), (0x1FAC, "\u1f64\u03b9"),
   (0x1FAD, "\u1f65\u03b9"), (0x1FAE, "\u1f66\u03b9"), (0x1FAF, "\u1f67\u03b9"),
   (0x1FB2, "\u1f70\u03b9"), (0x1FB3, "\u03b1\u03b9"), (0x1FB4, "\u03ac\u03b9"),
   (0x1FB7, "\u1fb6\u03b9"), (0x1FBC, "\u03b1\u03b9"), (0x1FBD, " \u0313"), (0x1FBF, " \u0313"),
   (0x1FC0, " \u0342"), (0x1FC1, " \u0308\u0342"), (0x1FC2, "\u1f74\u03b9"),
   (0x1FC3, "\u03b7\u03b9"), (0x1FC4, "\u03ae\u03b9"), (0x1FC7, "\u1fc6\u03b9"),
   (0x1FCC, "\u03b7\u03b9"), (0x1FCD, " \u0313\u0300"), (0x1FCE, " \u0313\u0301"),
   (0x1FCF, " \u0313\u0342"), (0x1FDD, " \u0314\u0300"), (0x1FDE, " \u0314\u0301"),
   (0x1FDF, " \u0314\u0342"), (0x1FED, " \u0308\u0300"), (0x1FEE, " \u0308\u0301"),
   (0x1FF2, "\u1f7c\u03b9"), (0x1FF3, "\u03c9\u03b9"), (0x1FF4, "\u03ce\u03b9"),
   (0x1FF7, "\u1ff6\u03b9"), (0x1FFC, "\u03c9\u03b9"), (0x1FFD, " \u0301"), (0x1FFE, " \u0314"),
   (0x2017, " \u0333"), (0x2033, "\u2032\u2032"), (0x2034, "\u2032\u2032\u2032"),
   (0x2036, "\u2035\u2035"), (0x2037, "\u2035\u2035\u2035"), (0x203C, "!!"), (0x203E, " \u0305"),
   (0x2047, "??"), (0x2048, "?!"), (0x2049, "!?"), (0x2057, "\u2032\u2032\u2032\u2032"),
   (0x20A8, "rs"), (0x2100, "a/c"), (0x2101, "a/s"), (0x2103, "\u00b0c"), (0x2105, "c/o"),
   (0x2106, "c/u"), (0x2109, "\u00b0f"), (0x2116, "no"), (0x2120, "sm"), (0x2121, "tel"),
   (0x2122, "tm"), (0x213B, "fax"), (0x2150, "1\u20447"), (0x2151, "1\u20449"),
   (0x2152, "1\u204410"), (0x2153, "1\u20443"), (0x2154, "2\u20443"), (0x2155, "1\u20445"),
   (0x2156, "2\u20445"), (0x2157, "3\u20445"), (0x2158, "4\u20445"), (0x2159, "1\u20446"),
   (0x215A, "5\u20446"), (0x215B, "1\u20448"), (0x215C, "3\u20448"), (0x215D, "5\u20448"),
   (0x215E, "7\u20448"), (0x215F, "1\u2044"), (0x2161, "ii"), (0x2162, "iii"), (0x2163, "iv"),
   (0x2165, "vi"), (0x2166, "vii"), (0x2167, "viii"), (0x2168, "ix"), (0x216A, "xi"),
   (0x216B, "xii"), (0x2171, "ii"), (0x2172, "iii"), (0x2173, "iv"), (0x2175, "vi"),
   (0x2176, "vii"), (0x2177, "viii"), (0x2178, "ix"), (0x217A, "xi"), (0x217B, "xii"),
   (0x2189, "0\u20443"), (0x222C, "\u222b\u222b"), (0x222D, "\u222b\u222b\u222b"),
   (0x222F, "\u222e\u222e"), (0x2230, "\u222e\u222e\u222e"), (0x2469, "10"), (0x246A, "11"),
   (0x246B, "12"), (0x246C, "13"), (0x246D, "14"), (0x246E, "15"), (0x246F, "16"), (0x2470, "17"),
   (0x2471, "18"), (0x2472, "19"), (0x2473, "20"), (0x2474, "(1)"), (0x2475, "(2)"),
   (0x2476, "(3)"), (0x2477, "(4)"), (0x2478, "(5)"), (0x2479, "(6)"), (0x247A, "(7)"),
   (0x247B, "(8)"), (0x247C, "(9)"), (0x247D, "(10)"), (0x247E, "(11)"), (0x247F, "(12)"),
   (0x2480, "(13)"), (0x2481, "(14)"), (0x2482, "(15)"), (0x2483, "(16)"), (0x2484, "(17)"),
   (0x2485, "(18)"), (0x2486, "(19)"), (0x2487, "(20)"), (0x249C, "(a)"), (0x249D, "(b)"),
   (0x249E, "(c)"), (0x249F, "(d)"), (0x24A0, "(e)"), (0x24A1, "(f)"), (0x24A2, "(g)"),
   (0x24A3, "(h)"), (0x24A4, "(i)"), (0x24A5, "(j)"), (0x24A6, "(k)"), (0x24A7, "(l)"),
   (0x24A8, "(m)"), (0x24A9, "(n)"), (0x24AA, "(o)"), (0x24AB, "(p)"), (0x24AC, "(q)"),
   (0x24AD, "(r)"), (0x24AE, "(s)"), (0x24AF, "(t)"), (0x24B0, "(u)"), (0x24B1, "(v)"),
   (0x24B2, "(w)"), (0x24B3, "(x)"), (0x24B4, "(y)"), (0x24B5, "(z)"),
   (0x2A0C, "\u222b\u222b\u222b\u222b"), (0x2A74, "::="), (0x2A75, "=="), (0x2A76, "==="),
   (0x2ADC, "\u2add\u0338"), (0x309B, " \u3099"), (0x309C, " \u309a"), (0x309F, "\u3088\u308a"),
   (0x30FF, "\u30b3\u30c8"), (0x3200, "(\u1100)"), (0x3201, "(\u1102)"), (0x3202, "(\u1103)"),
   (0x3203, "(\u1105)"), (0x3204, "(\u1106)"), (0x3205, "(\u1107)"), (0x3206, "(\u1109)"),
   (0x3207, "(\u110b)"), (0x3208, "(\u110c)"), (0x3209, "(\u110e)"), (0x320A, "(\u110f)"),
   (0x320B, "(\u1110)"), (0x320C, "(\u1111)"), (0x320D, "(\u1112)"), (0x320E, "(\uac00)"),
   (0x320F, "(\ub098)"), (0x3210, "(\ub2e4)"), (0x3211, "(\ub77c)"), (0x3212, "(\ub9c8)"),
   (0x3213, "(\ubc14)"), (0x3214, "(\uc0ac)"), (0x3215, "(\uc544)"), (0x3216, "(\uc790)"),
   (0x3217, "(\ucc28)"), (0x3218, "(\uce74)"), (0x3219, "(\ud0c0)"), (0x321A, "(\ud30c)"),
   (0x321B, "(\ud558)"), (0x321C, "(\uc8fc)"), (0x321D, "(\uc624\uc804)"),
   (0x321E, "(\uc624\ud6c4)"), (0x3220, "(\u4e00)"), (0x3221, "(\u4e8c)"), (0x3222, "(\u4e09)"),
   (0x3223, "(\u56db)"), (0x3224, "(\u4e94)"), (0x3225, "(\u516d)"), (0x3226, "(\u4e03)"),
   (0x3227, "(\u516b)"), (0x3228, "(\u4e5d)"), (0x3229, "(\u5341)"), (0x322A, "(\u6708)"),
   (0x322B, "(\u706b)"), (0x322C, "(\u6c34)"), (0x322D, "(\u6728)"), (0x322E, "(\u91d1)"),
   (0x322F, "(\u571f)"), (0x3230, "(\u65e5)"), (0x3231, "(\u682a)"), (0x3232, "(\u6709)"),
   (0x3233, "(\u793e)"), (0x3234, "(\u540d)"), (0x3235, "(\u7279)"), (0x3236, "(\u8ca1)"),
   (0x3237, "(\u795d)"), (0x3238, "(\u52b4)"), (0x3239, "(\u4ee3)"), (0x323A, "(\u547c)"),
   (0x323B, "(\u5b66)"), (0x323C, "(\u76e3)"), (0x323D, "(\u4f01)"), (0x323E, "(\u8cc7)"),
   (0x323F, "(\u5354)"), (0x3240, "(\u796d)"), (0x3241, "(\u4f11)"), (0x3242, "(\u81ea)"),
   (0x3243, "(\u81f3)"), (0x3250, "pte"), (0x3251, "21"), (0x3252, "22"), (0x3253, "23"),
   (0x3254, "24"), (0x3255, "25"), (0x3256, "26"), (0x3257, "27"), (0x3258, "28"), (0x3259, "29"),
   (0x325A, "30"), (0x325B, "31"), (0x325C, "32"), (0x325D, "33"), (0x325E, "34"), (0x325F, "35"),
   (0x327C, "\ucc38\uace0"), (0x327D, "\uc8fc\uc758"), (0x32B1, "36"), (0x32B2, "37"),
   (0x32B3, "38"), (0x32B4, "39"), (0x32B5, "40"), (0x32B6, "41"), (0x32B7, "42"), (0x32B8, "43"),
   (0x32B9, "44"), (0x32BA, "45"), (0x32BB, "46"), (0x32BC, "47"), (0x32BD, "48"), (0x32BE, "49"),
   (0x32BF, "50"), (0x32C0, "1\u6708"), (0x32C1, "2\u6708"), (0x32C2, "3\u6708"),
   (0x32C3, "4\u6708"), (0x32C4, "5\u6708"), (0x32C5, "6\u6708"), (0x32C6, "7\u6708"),
   (0x32C7, "8\u6708"), (0x32C8, "9\u6708"), (0x32C9, "10\u6708"), (0x32CA, "11\u6708"),
   (0x32CB, "12\u6708"), (0x32CC, "hg"), (0x32CD, "erg"), (0x32CE, "ev"), (0x32CF, "ltd"),
   (0x32FF, "\u4ee4\u548c"), (0x3300, "\u30a2\u30d1\u30fc\u30c8"),
   (0x3301, "\u30a2\u30eb\u30d5\u30a1"), (0x3302, "\u30a2\u30f3\u30da\u30a2"),
   (0x3303, "\u30a2\u30fc\u30eb"), (0x3304, "\u30a4\u30cb\u30f3\u30b0"),
   (0x3305, "\u30a4\u30f3\u30c1"), (0x3306, "\u30a6\u30a9\u30f3"),
   (0x3307, "\u30a8\u30b9\u30af\u30fc\u30c9"), (0x3308, "\u30a8\u30fc\u30ab\u30fc"),
   (0x3309, "\u30aa\u30f3\u30b9"), (0x330A, "\u30aa\u30fc\u30e0"), (0x330B, "\u30ab\u30a4\u30ea"),
   (0x330C, "\u30ab\u30e9\u30c3\u30c8"), (0x330D, "\u30ab\u30ed\u30ea\u30fc"),
   (0x330E, "\u30ac\u30ed\u30f3"), (0x330F, "\u30ac\u30f3\u30de"), (0x3310, "\u30ae\u30ac"),
   (0x3311, "\u30ae\u30cb\u30fc"), (0x3312, "\u30ad\u30e5\u30ea\u30fc"),
   (0x3313, "\u30ae\u30eb\u30c0\u30fc"), (0x3314, "\u30ad\u30ed"),
   (0x3315, "\u30ad\u30ed\u30b0\u30e9\u30e0"), (0x3316, "\u30ad\u30ed\u30e1\u30fc\u30c8\u30eb"),
   (0x3317, "\u30ad\u30ed\u30ef\u30c3\u30c8"), (0x3318, "\u30b0\u30e9\u30e0"),
   (0x3319, "\u30b0\u30e9\u30e0\u30c8\u30f3"), (0x331A, "\u30af\u30eb\u30bc\u30a4\u30ed"),
   (0x331B, "\u30af\u30ed\u30fc\u30cd"), (0x331C, "\u30b1\u30fc\u30b9"),
   (0x331D, "\u30b3\u30eb\u30ca"), (0x331E, "\u30b3\u30fc\u30dd"),
   (0x331F, "\u30b5\u30a4\u30af\u30eb"), (0x3320, "\u30b5\u30f3\u30c1\u30fc\u30e0"),
   (0x3321, "\u30b7\u30ea\u30f3\u30b0"), (0x3322, "\u30bb\u30f3\u30c1"),
   (0x3323, "\u30bb\u30f3\u30c8"), (0x3324, "\u30c0\u30fc\u30b9"), (0x3325, "\u30c7\u30b7"),
   (0x3326, "\u30c9\u30eb"), (0x3327, "\u30c8\u30f3"), (0x3328, "\u30ca\u30ce"),
   (0x3329, "\u30ce\u30c3\u30c8"), (0x332A, "\u30cf\u30a4\u30c4"),
   (0x332B, "\u30d1\u30fc\u30bb\u30f3\u30c8"), (0x332C, "\u30d1\u30fc\u30c4"),
   (0x332D, "\u30d0\u30fc\u30ec\u30eb"), (0x332E, "\u30d4\u30a2\u30b9\u30c8\u30eb"),
   (0x332F, "\u30d4\u30af\u30eb"), (0x3330, "\u30d4\u30b3"), (0x3331, "\u30d3\u30eb"),
   (0x3332, "\u30d5\u30a1\u30e9\u30c3\u30c9"), (0x3333, "\u30d5\u30a3\u30fc\u30c8"),
   (0x3334, "\u30d6\u30c3\u30b7\u30a7\u30eb"), (0x3335, "\u30d5\u30e9\u30f3"),
   (0x3336, "\u30d8\u30af\u30bf\u30fc\u30eb"), (0x3337, "\u30da\u30bd"),
   (0x3338, "\u30da\u30cb\u30d2"), (0x3339, "\u30d8\u30eb\u30c4"), (0x333A, "\u30da\u30f3\u30b9"),
   (0x333B, "\u30da\u30fc\u30b8"), (0x333C, "\u30d9\u30fc\u30bf"),
   (0x333D, "\u30dd\u30a4\u30f3\u30c8"), (0x333E, "\u30dc\u30eb\u30c8"), (0x333F, "\u30db\u30f3"),
   (0x3340, "\u30dd\u30f3\u30c9"), (0x3341, "\u30db\u30fc\u30eb"), (0x3342, "\u30db\u30fc\u30f3"),
   (0x3343, "\u30de\u30a4\u30af\u30ed"), (0x3344, "\u30de\u30a4\u30eb"),
   (0x3345, "\u30de\u30c3\u30cf"), (0x3346, "\u30de\u30eb\u30af"),
   (0x3347, "\u30de\u30f3\u30b7\u30e7\u30f3"), (0x3348, "\u30df\u30af\u30ed\u30f3"),
   (0x3349, "\u30df\u30ea"), (0x334A, "\u30df\u30ea\u30d0\u30fc\u30eb"), (0x334B, "\u30e1\u30ac"),
   (0x334C, "\u30e1\u30ac\u30c8\u30f3"), (0x334D, "\u30e1\u30fc\u30c8\u30eb"),
   (0x334E, "\u30e4\u30fc\u30c9"), (0x334F, "\u30e4\u30fc\u30eb"), (0x3350, "\u30e6\u30a2\u30f3"),
   (0x3351, "\u30ea\u30c3\u30c8\u30eb"), (0x3352, "\u30ea\u30e9"), (0x3353, "\u30eb\u30d4\u30fc"),
   (0x3354, "\u30eb\u30fc\u30d6\u30eb"), (0x3355, "\u30ec\u30e0"),
   (0x3356, "\u30ec\u30f3\u30c8\u30b2\u30f3"), (0x3357, "\u30ef\u30c3\u30c8"), (0x3358, "0\u70b9"),
   (0x3359, "1\u70b9"), (0x335A, "2\u70b9"), (0x335B, "3\u70b9"), (0x335C, "4\u70b9"),
   (0x335D, "5\u70b9"), (0x335E, "6\u70b9"), (0x335F, "7\u70b9"), (0x3360, "8\u70b9"),
   (0x3361, "9\u70b9"), (0x3362, "10\u70b9"), (0x3363, "11\u70b9"), (0x3364, "12\u70b9"),
   (0x3365, "13\u70b9"), (0x3366, "14\u70b9"), (0x3367, "15\u70b9"), (0x3368, "16\u70b9"),
   (0x3369, "17\u70b9"), (0x336A, "18\u70b9"), (0x336B, "19\u70b9"), (0x336C, "20\u70b9"),
   (0x336D, "21\u70b9"), (0x336E, "22\u70b9"), (0x336F, "23\u70b9"), (0x3370, "24\u70b9"),
   (0x3371, "hpa"), (0x3372, "da"), (0x3373, "au"), (0x3374, "bar"), (0x3375, "ov"), (0x3376, "pc"),
   (0x3377, "dm"), (0x3378, "dm2"), (0x3379, "dm3"), (0x337A, "iu"), (0x337B, "\u5e73\u6210"),
   (0x337C, "\u662d\u548c"), (0x337D, "\u5927\u6b63"), (0x337E, "\u660e\u6cbb"),
   (0x337F, "\u682a\u5f0f\u4f1a\u793e"), (0x3380, "pa"), (0x3381, "na"), (0x3382, "\u03bca"),
   (0x3383, "ma"), (0x3384, "ka"), (0x3385, "kb"), (0x3386, "mb"), (0x3387, "gb"), (0x3388, "cal"),
   (0x3389, "kcal"), (0x338A, "pf"), (0x338B, "nf"), (0x338C, "\u03bcf"), (0x338D, "\u03bcg"),
   (0x338E, "mg"), (0x338F, "kg"), (0x3390, "hz"), (0x3391, "khz"), (0x3392, "mhz"),
   (0x3393, "ghz"), (0x3394, "thz"), (0x3395, "\u03bcl"), (0x3396, "ml"), (0x3397, "dl"),
   (0x3398, "kl"), (0x3399, "fm"), (0x339A, "nm"), (0x339B, "\u03bcm"), (0x339C, "mm"),
   (0x339D, "cm"), (0x339E, "km"), (0x339F, "mm2"), (0x33A0, "cm2"), (0x33A1, "m2"),
   (0x33A2, "km2"), (0x33A3, "mm3"), (0x33A4, "cm3"), (0x33A5, "m3"), (0x33A6, "km3"),
   (0x33A7, "m\u2215s"), (0x33A8, "m\u2215s2"), (0x33A9, "pa"), (0x33AA, "kpa"), (0x33AB, "mpa"),
   (0x33AC, "gpa"), (0x33AD, "rad"), (0x33AE, "rad\u2215s"), (0x33AF, "rad\u2215s2"),
   (0x33B0, "ps"), (0x33B1, "ns"), (0x33B2, "\u03bcs"), (0x33B3, "ms"), (0x33B4, "pv"),
   (0x33B5, "nv"), (0x33B6, "\u03bcv"), (0x33B7, "mv"), (0x33B8, "kv"), (0x33B9, "mv"),
   (0x33BA, "pw"), (0x33BB, "nw"), (0x33BC, "\u03bcw"), (0x33BD, "mw"), (0x33BE, "kw"),
   (0x33BF, "mw"), (0x33C0, "k\u03c9"), (0x33C1, "m\u03c9"), (0x33C3, "bq"), (0x33C4, "cc"),
   (0x33C5, "cd"), (0x33C6, "c\u2215kg"), (0x33C8, "db"), (0x33C9, "gy"), (0x33CA, "ha"),
   (0x33CB, "hp"), (0x33CC, "in"), (0x33CD, "kk"), (0x33CE, "km"), (0x33CF, "kt"), (0x33D0, "lm"),
   (0x33D1, "ln"), (0x33D2, "log"), (0x33D3, "lx"), (0x33D4, "mb"), (0x33D5, "mil"),
   (0x33D6, "mol"), (0x33D7, "ph"), (0x33D9, "ppm"), (0x33DA, "pr"), (0x33DB, "sr"), (0x33DC, "sv"),
   (0x33DD, "wb"), (0x33DE, "v\u2215m"), (0x33DF, "a\u2215m"), (0x33E0, "1\u65e5"),
   (0x33E1, "2\u65e5"), (0x33E2, "3\u65e5"), (0x33E3, "4\u65e5"), (0x33E4, "5\u65e5"),
   (0x33E5, "6\u65e5"), (0x33E6, "7\u65e5"), (0x33E7, "8\u65e5"), (0x33E8, "9\u65e5"),
   (0x33E9, "10\u65e5"), (0x33EA, "11\u65e5"), (0x33EB, "12\u65e5"), (0x33EC, "13\u65e5"),
   (0x33ED, "14\u65e5"), (0x33EE, "15\u65e5"), (0x33EF, "16\u65e5"), (0x33F0, "17\u65e5"),
   (0x33F1, "18\u65e5"), (0x33F2, "19\u65e5"), (0x33F3, "20\u65e5"), (0x33F4, "21\u65e5"),
   (0x33F5, "22\u65e5"), (0x33F6, "23\u65e5"), (0x33F7, "24\u65e5"), (0x33F8, "25\u65e5"),
   (0x33F9, "26\u65e5"), (0x33FA, "27\u65e5"), (0x33FB, "28\u65e5"), (0x33FC, "29\u65e5"),
   (0x33FD, "30\u65e5"), (0x33FE, "31\u65e5"), (0x33FF, "gal"), (0xFB00, "ff"), (0xFB01, "fi"),
   (0xFB02, "fl"), (0xFB03, "ffi"), (0xFB04, "ffl"), (0xFB05, "st"), (0xFB06, "st"),
   (0xFB13, "\u0574\u0576"), (0xFB14, "\u0574\u0565"), (0xFB15, "\u0574\u056b"),
   (0xFB16, "\u057e\u0576"), (0xFB17, "\u0574\u056d"), (0xFB1D, "\u05d9\u05b4"),
   (0xFB1F, "\u05f2\u05b7"), (0xFB2A, "\u05e9\u05c1"), (0xFB2B, "\u05e9\u05c2"),
   (0xFB2C, "\u05e9\u05bc\u05c1"), (0xFB2D, "\u05e9\u05bc\u05c2"), (0xFB2E, "\u05d0\u05b7"),
   (0xFB2F, "\u05d0\u05b8"), (0xFB30, "\u05d0\u05bc"), (0xFB31, "\u05d1\u05bc"),
   (0xFB32, "\u05d2\u05bc"), (0xFB33, "\u05d3\u05bc"), (0xFB34, "\u05d4\u05bc"),
   (0xFB35, "\u05d5\u05bc"), (0xFB36, "\u05d6\u05bc"), (0xFB38, "\u05d8\u05bc"),
   (0xFB39, "\u05d9\u05bc"), (0xFB3A, "\u05da\u05bc"), (0xFB3B, "\u05db\u05bc"),
   (0xFB3C, "\u05dc\u05bc"), (0xFB3E, "\u05de\u05bc"), (0xFB40, "\u05e0\u05bc"),
   (0xFB41, "\u05e1\u05bc"), (0xFB43, "\u05e3\u05bc"), (0xFB44, "\u05e4\u05bc"),
   (0xFB46, "\u05e6\u05bc"), (0xFB47, "\u05e7\u05bc"), (0xFB48, "\u05e8\u05bc"),
   (0xFB49, "\u05e9\u05bc"), (0xFB4A, "\u05ea\u05bc"), (0xFB4B, "\u05d5\u05b9"),
   (0xFB4C, "\u05d1\u05bf"), (0xFB4D, "\u05db\u05bf"), (0xFB4E, "\u05e4\u05bf"),
   (0xFB4F, "\u05d0\u05dc"), (0xFBDD, "\u06c7\u0674"), (0xFBEA, "\u0626\u0627"),
   (0xFBEB, "\u0626\u0627"), (0xFBEC, "\u0626\u06d5"), (0xFBED, "\u0626\u06d5"),
   (0xFBEE, "\u0626\u0648"), (0xFBEF, "\u0626\u0648"), (0xFBF0, "\u0626\u06c7"),
   (0xFBF1, "\u0626\u06c7"), (0xFBF2, "\u0626\u06c6"), (0xFBF3, "\u0626\u06c6"),
   (0xFBF4, "\u0626\u06c8"), (0xFBF5, "\u0626\u06c8"), (0xFBF6, "\u0626\u06d0"),
   (0xFBF7, "\u0626\u06d0"), (0xFBF8, "\u0626\u06d0"), (0xFBF9, "\u0626\u0649"),
   (0xFBFA, "\u0626\u0649"), (0xFBFB, "\u0626\u0649"), (0xFC00, "\u0626\u062c"),
   (0xFC01, "\u0626\u062d"), (0xFC02, "\u0626\u0645"), (0xFC03, "\u0626\u0649"),
   (0xFC04, "\u0626\u064a"), (0xFC05, "\u0628\u062c"), (0xFC06, "\u0628\u062d"),
   (0xFC07, "\u0628\u062e"), (0xFC08, "\u0628\u0645"), (0xFC09, "\u0628\u0649"),
   (0xFC0A, "\u0628\u064a"), (0xFC0B, "\u062a\u062c"), (0xFC0C, "\u062a\u062d"),
   (0xFC0D, "\u062a\u062e"), (0xFC0E, "\u062a\u0645"), (0xFC0F, "\u062a\u0649"),
   (0xFC10, "\u062a\u064a"), (0xFC11, "\u062b\u062c"), (0xFC12, "\u062b\u0645"),
   (0xFC13, "\u062b\u0649"), (0xFC14, "\u062b\u064a"), (0xFC15, "\u062c\u062d"),
   (0xFC16, "\u062c\u0645"), (0xFC17, "\u062d\u062c"), (0xFC18, "\u062d\u0645"),
   (0xFC19, "\u062e\u062c"), (0xFC1A, "\u062e\u062d"), (0xFC1B, "\u062e\u0645"),
   (0xFC1C, "\u0633\u062c"), (0xFC1D, "\u0633\u062d"), (0xFC1E, "\u0633\u062e"),
   (0xFC1F, "\u0633\u0645"), (0xFC20, "\u0635\u062d"), (0xFC21, "\u0635\u0645"),
   (0xFC22, "\u0636\u062c"), (0xFC23, "\u0636\u062d"), (0xFC24, "\u0636\u062e"),
   (0xFC25, "\u0636\u0645"), (0xFC26, "\u0637\u062d"), (0xFC27, "\u0637\u0645"),
   (0xFC28, "\u0638\u0645"), (0xFC29, "\u0639\u062c"), (0xFC2A, "\u0639\u0645"),
   (0xFC2B, "\u063a\u062c"), (0xFC2C, "\u063a\u0645"), (0xFC2D, "\u0641\u062c"),
   (0xFC2E, "\u0641\u062d"), (0xFC2F, "\u0641\u062e"), (0xFC30, "\u0641\u0645"),
   (0xFC31, "\u0641\u0649"), (0xFC32, "\u0641\u064a"), (0xFC33, "\u0642\u062d"),
   (0xFC34, "\u0642\u0645"), (0xFC35, "\u0642\u0649"), (0xFC36, "\u0642\u064a"),
   (0xFC37, "\u0643\u0627"), (0xFC38, "\u0643\u062c"), (0xFC39, "\u0643\u062d"),
   (0xFC3A, "\u0643\u062e"), (0xFC3B, "\u0643\u0644"), (0xFC3C, "\u0643\u0645"),
   (0xFC3D, "\u0643\u0649"), (0xFC3E, "\u0643\u064a"), (0xFC3F, "\u0644\u062c"),
   (0xFC40, "\u0644\u062d"), (0xFC41, "\u0644\u062e"), (0xFC42, "\u0644\u0645"),
   (0xFC43, "\u0644\u0649"), (0xFC44, "\u0644\u064a"), (0xFC45, "\u0645\u062c"),
   (0xFC46, "\u0645\u062d"), (0xFC47, "\u0645\u062e"), (0xFC48, "\u0645\u0645"),
   (0xFC49, "\u0645\u0649"), (0xFC4A, "\u0645\u064a"), (0xFC4B, "\u0646\u062c"),
   (0xFC4C, "\u0646\u062d"), (0xFC4D, "\u0646\u062e"), (0xFC4E, "\u0646\u0645"),
   (0xFC4F, "\u0646\u0649"), (0xFC50, "\u0646\u064a"), (0xFC51, "\u0647\u062c"),
   (0xFC52, "\u0647\u0645"), (0xFC53, "\u0647\u0649"), (0xFC54, "\u0647\u064a"),
   (0xFC55, "\u064a\u062c"), (0xFC56, "\u064a\u062d"), (0xFC57, "\u064a\u062e"),
   (0xFC58, "\u064a\u0645"), (0xFC59, "\u064a\u0649"), (0xFC5A, "\u064a\u064a"),
   (0xFC5B, "\u0630\u0670"), (0xFC5C, "\u0631\u0670"), (0xFC5D, "\u0649\u0670"),
   (0xFC5E, " \u064c\u0651"), (0xFC5F, " \u064d\u0651"), (0xFC60, " \u064e\u0651"),
   (0xFC61, " \u064f\u0651"), (0xFC62, " \u0650\u0651"), (0xFC63, " \u0651\u0670"),
   (0xFC64, "\u0626\u0631"), (0xFC65, "\u0626\u0632"), (0xFC66, "\u0626\u0645"),
   (0xFC67, "\u0626\u0646"), (0xFC68, "\u0626\u0649"), (0xFC69, "\u0626\u064a"),
   (0xFC6A, "\u0628\u0631"), (0xFC6B, "\u0628\u0632"), (0xFC6C, "\u0628\u0645"),
   (0xFC6D, "\u0628\u0646"), (0xFC6E, "\u0628\u0649"), (0xFC6F, "\u0628\u064a"),
   (0xFC70, "\u062a\u0631"), (0xFC71, "\u062a\u0632"), (0xFC72, "\u062a\u0645"),
   (0xFC73, "\u062a\u0646"), (0xFC74, "\u062a\u0649"), (0xFC75, "\u062a\u064a"),
   (0xFC76, "\u062b\u0631"), (0xFC77, "\u062b\u0632"), (0xFC78, "\u062b\u0645"),
   (0xFC79, "\u062b\u0646"), (0xFC7A, "\u062b\u0649"), (0xFC7B, "\u062b\u064a"),
   (0xFC7C, "\u0641\u0649"), (0xFC7D, "\u0641\u064a"), (0xFC7E, "\u0642\u0649"),
   (0xFC7F, "\u0642\u064a"), (0xFC80, "\u0643\u0627"), (0xFC81, "\u0643\u0644"),
   (0xFC82, "\u0643\u0645"), (0xFC83, "\u0643\u0649"), (0xFC84, "\u0643\u064a"),
   (0xFC85, "\u0644\u0645"), (0xFC86, "\u0644\u0649"), (0xFC87, "\u0644\u064a"),
   (0xFC88, "\u0645\u0627"), (0xFC89, "\u0645\u0645"), (0xFC8A, "\u0646\u0631"),
   (0xFC8B, "\u0646\u0632"), (0xFC8C, "\u0646\u0645"), (0xFC8D, "\u0646\u0646"),
   (0xFC8E, "\u0646\u0649"), (0xFC8F, "\u0646\u064a"), (0xFC90, "\u0649\u0670"),
   (0xFC91, "\u064a\u0631"), (0xFC92, "\u064a\u0632"), (0xFC93, "\u064a\u0645"),
   (0xFC94, "\u064a\u0646"), (0xFC95, "\u064a\u0649"), (0xFC96, "\u064a\u064a"),
   (0xFC97, "\u0626\u062c"), (0xFC98, "\u0626\u062d"), (0xFC99, "\u0626\u062e"),
   (0xFC9A, "\u0626\u0645"), (0xFC9B, "\u0626\u0647"), (0xFC9C, "\u0628\u062c"),
   (0xFC9D, "\u0628\u062d"), (0xFC9E, "\u0628\u062e"), (0xFC9F, "\u0628\u0645"),
   (0xFCA0, "\u0628\u0647"), (0xFCA1, "\u062a\u062c"), (0xFCA2, "\u062a\u062d"),
   (0xFCA3, "\u062a\u062e"), (0xFCA4, "\u062a\u0645"), (0xFCA5, "\u062a\u0647"),
   (0xFCA6, "\u062b\u0645"), (0xFCA7, "\u062c\u062d"), (0xFCA8, "\u062c\u0645"),
   (0xFCA9, "\u062d\u062c"), (0xFCAA, "\u062d\u0645"), (0xFCAB, "\u062e\u062c"),
   (0xFCAC, "\u062e\u0645"), (0xFCAD, "\u0633\u062c"), (0xFCAE, "\u0633\u062d"),
   (0xFCAF, "\u0633\u062e"), (0xFCB0, "\u0633\u0645"), (0xFCB1, "\u0635\u062d"),
   (0xFCB2, "\u0635\u062e"), (0xFCB3, "\u0635\u0645"), (0xFCB4, "\u0636\u062c"),
   (0xFCB5, "\u0636\u062d"), (0xFCB6, "\u0636\u062e"), (0xFCB7, "\u0636\u0645"),
   (0xFCB8, "\u0637\u062d"), (0xFCB9, "\u0638\u0645"), (0xFCBA, "\u0639\u062c"),
   (0xFCBB, "\u0639\u0645"), (0xFCBC, "\u063a\u062c"), (0xFCBD, "\u063a\u0645"),
   (0xFCBE, "\u0641\u062c"), (0xFCBF, "\u0641\u062d"), (0xFCC0, "\u0641\u062e"),
   (0xFCC1, "\u0641\u0645"), (0xFCC2, "\u0642\u062d"), (0xFCC3, "\u0642\u0645"),
   (0xFCC4, "\u0643\u062c"), (0xFCC5, "\u0643\u062d"), (0xFCC6, "\u0643\u062e"),
   (0xFCC7, "\u0643\u0644"), (0xFCC8, "\u0643\u0645"), (0xFCC9, "\u0644\u062c"),
   (0xFCCA, "\u0644\u062d"), (0xFCCB, "\u0644\u062e"), (0xFCCC, "\u0644\u0645"),
   (0xFCCD, "\u0644\u0647"), (0xFCCE, "\u0645\u062c"), (0xFCCF, "\u0645\u062d"),
   (0xFCD0, "\u0645\u062e"), (0xFCD1, "\u0645\u0645"), (0xFCD2, "\u0646\u062c"),
   (0xFCD3, "\u0646\u062d"), (0xFCD4, "\u0646\u062e"), (0xFCD5, "\u0646\u0645"),
   (0xFCD6, "\u0646\u0647"), (0xFCD7, "\u0647\u062c"), (0xFCD8, "\u0647\u0645"),
   (0xFCD9, "\u0647\u0670"), (0xFCDA, "\u064a\u062c"), (0xFCDB, "\u064a\u062d"),
   (0xFCDC, "\u064a\u062e"), (0xFCDD, "\u064a\u0645"), (0xFCDE, "\u064a\u0647"),
   (0xFCDF, "\u0626\u0645"), (0xFCE0, "\u0626\u0647"), (0xFCE1, "\u0628\u0645"),
   (0xFCE2, "\u0628\u0647"), (0xFCE3, "\u062a\u0645"), (0xFCE4, "\u062a\u0647"),
   (0xFCE5, "\u062b\u0645"), (0xFCE6, "\u062b\u0647"), (0xFCE7, "\u0633\u0645"),
   (0xFCE8, "\u0633\u0647"), (0xFCE9, "\u0634\u0645"), (0xFCEA, "\u0634\u0647"),
   (0xFCEB, "\u0643\u0644"), (0xFCEC, "\u0643\u0645"), (0xFCED, "\u0644\u0645"),
   (0xFCEE, "\u0646\u0645"), (0xFCEF, "\u0646\u0647"), (0xFCF0, "\u064a\u0645"),
   (0xFCF1, "\u064a\u0647"), (0xFCF2, "\u0640\u064e\u0651"), (0xFCF3, "\u0640\u064f\u0651"),
   (0xFCF4, "\u0640\u0650\u0651"), (0xFCF5, "\u0637\u0649"), (0xFCF6, "\u0637\u064a"),
   (0xFCF7, "\u0639\u0649"), (0xFCF8, "\u0639\u064a"), (0xFCF9, "\u063a\u0649"),
   (0xFCFA, "\u063a\u064a"), (0xFCFB, "\u0633\u0649"), (0xFCFC, "\u0633\u064a"),
   (0xFCFD, "\u0634\u0649"), (0xFCFE, "\u0634\u064a"), (0xFCFF, "\u062d\u0649"),
   (0xFD00, "\u062d\u064a"), (0xFD01, "\u062c\u0649"), (0xFD02, "\u062c\u064a"),
   (0xFD03, "\u062e\u0649"), (0xFD04, "\u062e\u064a"), (0xFD05, "\u0635\u0649"),
   (0xFD06, "\u0635\u064a"), (0xFD07, "\u0636\u0649"), (0xFD08, "\u0636\u064a"),
   (0xFD09, "\u0634\u062c"), (0xFD0A, "\u0634\u062d"), (0xFD0B, "\u0634\u062e"),
   (0xFD0C, "\u0634\u0645"), (0xFD0D, "\u0634\u0631"), (0xFD0E, "\u0633\u0631"),
   (0xFD0F, "\u0635\u0631"), (0xFD10, "\u0636\u0631"), (0xFD11, "\u0637\u0649"),
   (0xFD12, "\u0637\u064a"), (0xFD13, "\u0639\u0649"), (0xFD14, "\u0639\u064a"),
   (0xFD15, "\u063a\u0649"), (0xFD16, "\u063a\u064a"), (0xFD17, "\u0633\u0649"),
   (0xFD18, "\u0633\u064a"), (0xFD19, "\u0634\u0649"), (0xFD1A, "\u0634\u064a"),
   (0xFD1B, "\u062d\u0649"), (0xFD1C, "\u062d\u064a"), (0xFD1D, "\u062c\u0649"),
   (0xFD1E, "\u062c\u064a"), (0xFD1F, "\u062e\u0649"), (0xFD20, "\u062e\u064a"),
   (0xFD21, "\u0635\u0649"), (0xFD22, "\u0635\u064a"), (0xFD23, "\u0636\u0649"),
   (0xFD24, "\u0636\u064a"), (0xFD25, "\u0634\u062c"), (0xFD26, "\u0634\u062d"),
   (0xFD27, "\u0634\u062e"), (0xFD28, "\u0634\u0645"), (0xFD29, "\u0634\u0631"),
   (0xFD2A, "\u0633\u0631"), (0xFD2B, "\u0635\u0631"), (0xFD2C, "\u0636\u0631"),
   (0xFD2D, "\u0634\u062c"), (0xFD2E, "\u0634\u062d"), (0xFD2F, "\u0634\u062e"),
   (0xFD30, "\u0634\u0645"), (0xFD31, "\u0633\u0647"), (0xFD32, "\u0634\u0647"),
   (0xFD33, "\u0637\u0645"), (0xFD34, "\u0633\u062c"), (0xFD35, "\u0633\u062d"),
   (0xFD36, "\u0633\u062e"), (0xFD37, "\u0634\u062c"), (0xFD38, "\u0634\u062d"),
   (0xFD39, "\u0634\u062e"), (0xFD3A, "\u0637\u0645"), (0xFD3B, "\u0638\u0645"),
   (0xFD3C, "\u0627\u064b"), (0xFD3D, "\u0627\u064b"), (0xFD50, "\u062a\u062c\u0645"),
   (0xFD51, "\u062a\u062d\u062c"), (0xFD52, "\u062a\u062d\u062c"), (0xFD53, "\u062a\u062d\u0645"),
   (0xFD54, "\u062a\u062e\u0645"), (0xFD55, "\u062a\u0645\u062c"), (0xFD56, "\u062a\u0645\u062d"),
   (0xFD57, "\u062a\u0645\u062e"), (0xFD58, "\u062c\u0645\u062d"), (0xFD59, "\u062c\u0645\u062d"),
   (0xFD5A, "\u062d\u0645\u064a"), (0xFD5B, "\u062d\u0645\u0649"), (0xFD5C, "\u0633\u062d\u062c"),
   (0xFD5D, "\u0633\u062c\u062d"), (0xFD5E, "\u0633\u062c\u0649"), (0xFD5F, "\u0633\u0645\u062d"),
   (0xFD60, "\u0633\u0645\u062d"), (0xFD61, "\u0633\u0645\u062c"), (0xFD62, "\u0633\u0645\u0645"),
   (0xFD63, "\u0633\u0645\u0645"), (0xFD64, "\u0635\u062d\u062d"), (0xFD65, "\u0635\u062d\u062d"),
   (0xFD66, "\u0635\u0645\u0645"), (0xFD67, "\u0634\u062d\u0645"), (0xFD68, "\u0634\u062d\u0645"),
   (0xFD69, "\u0634\u062c\u064a"), (0xFD6A, "\u0634\u0645\u062e"), (0xFD6B, "\u0634\u0645\u062e"),
   (0xFD6C, "\u0634\u0645\u0645"), (0xFD6D, "\u0634\u0645\u0645"), (0xFD6E, "\u0636\u062d\u0649"),
   (0xFD6F, "\u0636\u062e\u0645"), (0xFD70, "\u0636\u062e\u0645"), (0xFD71, "\u0637\u0645\u062d"),
   (0xFD72, "\u0637\u0645\u062d"), (0xFD73, "\u0637\u0645\u0645"), (0xFD74, "\u0637\u0645\u064a"),
   (0xFD75, "\u0639\u062c\u0645"), (0xFD76, "\u0639\u0645\u0645"), (0xFD77, "\u0639\u0645\u0645"),
   (0xFD78, "\u0639\u0645\u0649"), (0xFD79, "\u063a\u0645\u0645"), (0xFD7A, "\u063a\u0645\u064a"),
   (0xFD7B, "\u063a\u0645\u0649"), (0xFD7C, "\u0641\u062e\u0645"), (0xFD7D, "\u0641\u062e\u0645"),
   (0xFD7E, "\u0642\u0645\u062d"), (0xFD7F, "\u0642\u0645\u0645"), (0xFD80, "\u0644\u062d\u0645"),
   (0xFD81, "\u0644\u062d\u064a"), (0xFD82, "\u0644\u062d\u0649"), (0xFD83, "\u0644\u062c\u062c"),
   (0xFD84, "\u0644\u062c\u062c"), (0xFD85, "\u0644\u062e\u0645"), (0xFD86, "\u0644\u062e\u0645"),
   (0xFD87, "\u0644\u0645\u062d"), (0xFD88, "\u0644\u0645\u062d"), (0xFD89, "\u0645\u062d\u062c"),
   (0xFD8A, "\u0645\u062d\u0645"), (0xFD8B, "\u0645\u062d\u064a"), (0xFD8C, "\u0645\u062c\u062d"),
   (0xFD8D, "\u0645\u062c\u0645"), (0xFD8E, "\u0645\u062e\u062c"), (0xFD8F, "\u0645\u062e\u0645"),
   (0xFD92, "\u0645\u062c\u062e"), (0xFD93, "\u0647\u0645\u062c"), (0xFD94, "\u0647\u0645\u0645"),
   (0xFD95, "\u0646\u062d\u0645"), (0xFD96, "\u0646\u062d\u0649"), (0xFD97, "\u0646\u062c\u0645"),
   (0xFD98, "\u0646\u062c\u0645"), (0xFD99, "\u0646\u062c\u0649"), (0xFD9A, "\u0646\u0645\u064a"),
   (0xFD9B, "\u0646\u0645\u0649"), (0xFD9C, "\u064a\u0645\u0645"), (0xFD9D, "\u064a\u0645\u0645"),
   (0xFD9E, "\u0628\u062e\u064a"), (0xFD9F, "\u062a\u062c\u064a"), (0xFDA0, "\u062a\u062c\u0649"),
   (0xFDA1, "\u062a\u062e\u064a"), (0xFDA2, "\u062a\u062e\u0649"), (0xFDA3, "\u062a\u0645\u064a"),
   (0xFDA4, "\u062a\u0645\u0649"), (0xFDA5, "\u062c\u0645\u064a"), (0xFDA6, "\u062c\u062d\u0649"),
   (0xFDA7, "\u062c\u0645\u0649"), (0xFDA8, "\u0633\u062e\u0649"), (0xFDA9, "\u0635\u062d\u064a"),
   (0xFDAA, "\u0634\u062d\u064a"), (0xFDAB, "\u0636\u062d\u064a"), (0xFDAC, "\u0644\u062c\u064a"),
   (0xFDAD, "\u0644\u0645\u064a"), (0xFDAE, "\u064a\u062d\u064a"), (0xFDAF, "\u064a\u062c\u064a"),
   (0xFDB0, "\u064a\u0645\u064a"), (0xFDB1, "\u0645\u0645\u064a"), (0xFDB2, "\u0642\u0645\u064a"),
   (0xFDB3, "\u0646\u062d\u064a"), (0xFDB4, "\u0642\u0645\u062d"), (0xFDB5, "\u0644\u062d\u0645"),
   (0xFDB6, "\u0639\u0645\u064a"), (0xFDB7, "\u0643\u0645\u064a"), (0xFDB8, "\u0646\u062c\u062d"),
   (0xFDB9, "\u0645\u062e\u064a"), (0xFDBA, "\u0644\u062c\u0645"), (0xFDBB, "\u0643\u0645\u0645"),
   (0xFDBC, "\u0644\u062c\u0645"), (0xFDBD, "\u0646\u062c\u062d"), (0xFDBE, "\u062c\u062d\u064a"),
   (0xFDBF, "\u062d\u062c\u064a"), (0xFDC0, "\u0645\u062c\u064a"), (0xFDC1, "\u0641\u0645\u064a"),
   (0xFDC2, "\u0628\u062d\u064a"), (0xFDC3, "\u0643\u0645\u0645"), (0xFDC4, "\u0639\u062c\u0645"),
   (0xFDC5, "\u0635\u0645\u0645"), (0xFDC6, "\u0633\u062e\u064a"), (0xFDC7, "\u0646\u062c\u064a"),
   (0xFDF0, "\u0635\u0644\u06d2"), (0xFDF1, "\u0642\u0644\u06d2"),
   (0xFDF2, "\u0627\u0644\u0644\u0647"), (0xFDF3, "\u0627\u0643\u0628\u0631"),
   (0xFDF4, "\u0645\u062d\u0645\u062f"), (0xFDF5, "\u0635\u0644\u0639\u0645"),
   (0xFDF6, "\u0631\u0633\u0648\u0644"), (0xFDF7, "\u0639\u0644\u064a\u0647"),
   (0xFDF8, "\u0648\u0633\u0644\u0645"), (0xFDF9, "\u0635\u0644\u0649"),
   (0xFDFA, "\u0635\u0644\u0649 \u0627\u0644\u0644\u0647 \u0639\u0644\u064a\u0647 \u0648\u0633\u0644\u0645"),
   (0xFDFB, "\u062c\u0644 \u062c\u0644\u0627\u0644\u0647"), (0xFDFC, "\u0631\u06cc\u0627\u0644"),
   (0xFE49, " \u0305"), (0xFE4A, " \u0305"), (0xFE4B, " \u0305"), (0xFE4C, " \u0305"),
   (0xFE70, " \u064b"), (0xFE71, "\u0640\u064b"), (0xFE72, " \u064c"), (0xFE74, " \u064d"),
   (0xFE76, " \u064e"), (0xFE77, "\u0640\u064e"), (0xFE78, " \u064f"), (0xFE79, "\u0640\u064f"),
   (0xFE7A, " \u0650"), (0xFE7B, "\u0640\u0650"), (0xFE7C, " \u0651"), (0xFE7D, "\u0640\u0651"),
   (0xFE7E, " \u0652"), (0xFE7F, "\u0640\u0652"), (0xFEF5, "\u0644\u0622"),
   (0xFEF6, "\u0644\u0622"), (0xFEF7, "\u0644\u0623"), (0xFEF8, "\u0644\u0623"),
   (0xFEF9, "\u0644\u0625"), (0xFEFA, "\u0644\u0625"), (0xFEFB, "\u0644\u0627"),
   (0xFEFC, "\u0644\u0627"), (0xFFE3, " \u0304"), (0x1D15E, "𝅗𝅥"), (0x1D15F, "𝅘𝅥"),
   (0x1D160, "𝅘𝅥𝅮"), (0x1D161, "𝅘𝅥𝅯"), (0x1D162, "𝅘𝅥𝅰"), (0x1D163, "𝅘𝅥𝅱"), (0x1D164, "𝅘𝅥𝅲"),
   (0x1D1BB, "𝆹𝅥"), (0x1D1BC, "𝆺𝅥"), (0x1D1BD, "𝆹𝅥𝅮"), (0x1D1BE, "𝆺𝅥𝅮"), (0x1D1BF, "𝆹𝅥𝅯"),
   (0x1D1C0, "𝆺𝅥𝅯"), (0x1F101, "0,"), (0x1F102, "1,"), (0x1F103, "2,"), (0x1F104, "3,"),
   (0x1F105, "4,"), (0x1F106, "5,"), (0x1F107, "6,"), (0x1F108, "7,"), (0x1F109, "8,"),
   (0x1F10A, "9,"), (0x1F110, "(a)"), (0x1F111, "(b)"), (0x1F112, "(c)"), (0x1F113, "(d)"),
   (0x1F114, "(e)"), (0x1F115, "(f)"), (0x1F116, "(g)"), (0x1F117, "(h)"), (0x1F118, "(i)"),
   (0x1F119, "(j)"), (0x1F11A, "(k)"), (0x1F11B, "(l)"), (0x1F11C, "(m)"), (0x1F11D, "(n)"),
   (0x1F11E, "(o)"), (0x1F11F, "(p)"), (0x1F120, "(q)"), (0x1F121, "(r)"), (0x1F122, "(s)"),
   (0x1F123, "(t)"), (0x1F124, "(u)"), (0x1F125, "(v)"), (0x1F126, "(w)"), (0x1F127, "(x)"),
   (0x1F128, "(y)"), (0x1F129, "(z)"), (0x1F12A, "\u3014s\u3015"), (0x1F12D, "cd"), (0x1F12E, "wz"),
   (0x1F14A, "hv"), (0x1F14B, "mv"), (0x1F14C, "sd"), (0x1F14D, "ss"), (0x1F14E, "ppv"),
   (0x1F14F, "wc"), (0x1F16A, "mc"), (0x1F16B, "md"), (0x1F16C, "mr"), (0x1F190, "dj"),
   (0x1F200, "\u307b\u304b"), (0x1F201, "\u30b3\u30b3"), (0x1F240, "\u3014\u672c\u3015"),
   (0x1F241, "\u3014\u4e09\u3015"), (0x1F242, "\u3014\u4e8c\u3015"),
   (0x1F243, "\u3014\u5b89\u3015"), (0x1F244, "\u3014\u70b9\u3015"),
   (0x1F245, "\u3014\u6253\u3015"), (0x1F246, "\u3014\u76d7\u3015"),
   (0x1F247, "\u3014\u52dd\u3015"), (0x1F248, "\u3014\u6557\u3015")]

end LuaAssist.Domain.MappingTables
