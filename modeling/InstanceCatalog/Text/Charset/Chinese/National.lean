/-! # Spans of numbers that stand for characters

Each span has its first number, its last one, and the code point of its first character; those of
the other numbers follow it. -/

namespace InstanceCatalog.Text.Charset

abbrev NumberSpan := Nat × Nat × Nat

namespace NumberSpan

/-- The character of a number in one of some spans. -/
def char? (spans : List NumberSpan) (n : Nat) : Option Char :=
  (spans.find? fun s ↦ s.1 ≤ n && n ≤ s.2.1).map fun s ↦ Char.ofNat (s.2.2 + (n - s.1))

/-- The numbers of pairs of bytes in the national set, in rows of 190, as far as they are not in the
sets before it. -/
def nationalPairs : List NumberSpan :=
  [(6080, 6175, 0xE4C6), (6270, 6365, 0xE526), (6376, 6381, 0xE766), (6432, 6432, 0x20AC),
   (6433, 6433, 0xE76D), (6444, 6445, 0xE76E), (6458, 6459, 0xE770), (6460, 6555, 0xE586),
   (6650, 6745, 0xE5E6), (6829, 6839, 0xE772), (6840, 6935, 0xE646), (7022, 7029, 0xE77D),
   (7030, 7125, 0xE6A6), (7150, 7157, 0xE785), (7182, 7188, 0xE78D), (7201, 7202, 0xE794),
   (7208, 7208, 0xE796), (7211, 7219, 0xE797), (7220, 7315, 0xE706), (7349, 7363, 0xE7A0),
   (7397, 7409, 0xE7AF), (7495, 7505, 0xE7BC), (7533, 7533, 0xE7C7), (7536, 7536, 0x1F9),
   (7538, 7541, 0xE7C9), (7579, 7599, 0xE7CD), (7624, 7624, 0xE7E2), (7627, 7627, 0xE7E3),
   (7629, 7631, 0xE7E4), (7672, 7672, 0x303E), (7673, 7684, 0x2FF0), (7686, 7698, 0xE7F4),
   (7775, 7789, 0xE801), (7886, 7979, 0xE000), (8076, 8169, 0xE05E), (8266, 8359, 0xE0BC),
   (8456, 8549, 0xE11A), (8646, 8739, 0xE178), (8836, 8929, 0xE1D6), (16525, 16529, 0xE810),
   (22706, 22799, 0xE234), (22896, 22989, 0xE292), (23086, 23179, 0xE2F0), (23276, 23369, 0xE34E),
   (23466, 23559, 0xE3AC), (23656, 23749, 0xE40A), (23766, 23766, 0x2E81), (23767, 23769, 0xE816),
   (23770, 23770, 0x2E84), (23771, 23771, 0x3473), (23772, 23772, 0x3447), (23773, 23773, 0x2E88),
   (23774, 23774, 0x2E8B), (23775, 23775, 0xE81E), (23776, 23776, 0x359E), (23777, 23777, 0x361A),
   (23778, 23778, 0x360E), (23779, 23779, 0x2E8C), (23780, 23780, 0x2E97), (23781, 23781, 0x396E),
   (23782, 23782, 0x3918), (23783, 23783, 0xE826), (23784, 23784, 0x39CF), (23785, 23785, 0x39DF),
   (23786, 23786, 0x3A73), (23787, 23787, 0x39D0), (23788, 23789, 0xE82B), (23790, 23790, 0x3B4E),
   (23791, 23791, 0x3C6E), (23792, 23792, 0x3CE0), (23793, 23793, 0x2EA7), (23794, 23795, 0xE831),
   (23796, 23796, 0x2EAA), (23797, 23797, 0x4056), (23798, 23798, 0x415F), (23799, 23799, 0x2EAE),
   (23800, 23800, 0x4337), (23801, 23801, 0x2EB3), (23802, 23803, 0x2EB6), (23804, 23804, 0xE83B),
   (23805, 23805, 0x43B1), (23806, 23806, 0x43AC), (23807, 23807, 0x2EBB), (23808, 23808, 0x43DD),
   (23809, 23809, 0x44D6), (23810, 23810, 0x4661), (23811, 23811, 0x464C), (23812, 23812, 0xE843),
   (23813, 23813, 0x4723), (23814, 23814, 0x4729), (23815, 23815, 0x477C), (23816, 23816, 0x478D),
   (23817, 23817, 0x2ECA), (23818, 23818, 0x4947), (23819, 23819, 0x497A), (23820, 23820, 0x497D),
   (23821, 23822, 0x4982), (23823, 23824, 0x4985), (23825, 23825, 0x499F), (23826, 23826, 0x499B),
   (23827, 23827, 0x49B7), (23828, 23828, 0x49B6), (23829, 23830, 0xE854), (23831, 23831, 0x4CA3),
   (23832, 23834, 0x4C9F), (23835, 23835, 0x4C77), (23836, 23836, 0x4CA2), (23837, 23843, 0x4D13),
   (23844, 23844, 0x4DAE), (23845, 23845, 0xE864), (23846, 23939, 0xE468)]

/-- The numbers of four bytes in the national set. -/
def nationalFours : List NumberSpan :=
  [(0, 35, 0x80), (36, 37, 0xA5), (38, 44, 0xA9), (45, 49, 0xB2), (50, 80, 0xB8), (81, 88, 0xD8),
   (89, 94, 0xE2), (95, 95, 0xEB), (96, 99, 0xEE), (100, 102, 0xF4), (103, 103, 0xF8),
   (104, 104, 0xFB), (105, 108, 0xFD), (109, 125, 0x102), (126, 132, 0x114), (133, 147, 0x11C),
   (148, 171, 0x12C), (172, 174, 0x145), (175, 178, 0x149), (179, 207, 0x14E), (208, 305, 0x16C),
   (306, 306, 0x1CF), (307, 307, 0x1D1), (308, 308, 0x1D3), (309, 309, 0x1D5), (310, 310, 0x1D7),
   (311, 311, 0x1D9), (312, 312, 0x1DB), (313, 340, 0x1DD), (341, 427, 0x1FA), (428, 442, 0x252),
   (443, 543, 0x262), (544, 544, 0x2C8), (545, 557, 0x2CC), (558, 740, 0x2DA), (741, 741, 0x3A2),
   (742, 748, 0x3AA), (749, 749, 0x3C2), (750, 804, 0x3CA), (805, 818, 0x402), (819, 819, 0x450),
   (820, 7921, 0x452), (7922, 7923, 0x2011), (7924, 7924, 0x2017), (7925, 7926, 0x201A),
   (7927, 7933, 0x201E), (7934, 7942, 0x2027), (7943, 7943, 0x2031), (7944, 7944, 0x2034),
   (7945, 7949, 0x2036), (7950, 8061, 0x203C), (8062, 8147, 0x20AD), (8148, 8148, 0x2104),
   (8149, 8151, 0x2106), (8152, 8163, 0x210A), (8164, 8173, 0x2117), (8174, 8235, 0x2122),
   (8236, 8239, 0x216C), (8240, 8261, 0x217A), (8262, 8263, 0x2194), (8264, 8373, 0x219A),
   (8374, 8379, 0x2209), (8380, 8380, 0x2210), (8381, 8383, 0x2212), (8384, 8387, 0x2216),
   (8388, 8389, 0x221B), (8390, 8391, 0x2221), (8392, 8392, 0x2224), (8393, 8393, 0x2226),
   (8394, 8395, 0x222C), (8396, 8400, 0x222F), (8401, 8405, 0x2238), (8406, 8415, 0x223E),
   (8416, 8418, 0x2249), (8419, 8423, 0x224D), (8424, 8436, 0x2253), (8437, 8438, 0x2262),
   (8439, 8444, 0x2268), (8445, 8481, 0x2270), (8482, 8484, 0x2296), (8485, 8495, 0x229A),
   (8496, 8520, 0x22A6), (8521, 8602, 0x22C0), (8603, 8935, 0x2313), (8936, 8945, 0x246A),
   (8946, 9045, 0x249C), (9046, 9049, 0x254C), (9050, 9062, 0x2574), (9063, 9065, 0x2590),
   (9066, 9075, 0x2596), (9076, 9091, 0x25A2), (9092, 9099, 0x25B4), (9100, 9107, 0x25BE),
   (9108, 9110, 0x25C8), (9111, 9112, 0x25CC), (9113, 9130, 0x25D0), (9131, 9161, 0x25E6),
   (9162, 9163, 0x2607), (9164, 9217, 0x260A), (9218, 9218, 0x2641), (9219, 11328, 0x2643),
   (11329, 11330, 0x2E82), (11331, 11333, 0x2E85), (11334, 11335, 0x2E89), (11336, 11345, 0x2E8D),
   (11346, 11360, 0x2E98), (11361, 11362, 0x2EA8), (11363, 11365, 0x2EAB), (11366, 11369, 0x2EAF),
   (11370, 11371, 0x2EB4), (11372, 11374, 0x2EB8), (11375, 11388, 0x2EBC), (11389, 11681, 0x2ECB),
   (11682, 11685, 0x2FFC), (11686, 11686, 0x3004), (11687, 11691, 0x3018), (11692, 11693, 0x301F),
   (11694, 11713, 0x302A), (11714, 11715, 0x303F), (11716, 11722, 0x3094), (11723, 11724, 0x309F),
   (11725, 11729, 0x30F7), (11730, 11735, 0x30FF), (11736, 11981, 0x312A), (11982, 11988, 0x322A),
   (11989, 12101, 0x3232), (12102, 12335, 0x32A4), (12336, 12347, 0x3390), (12348, 12349, 0x339F),
   (12350, 12383, 0x33A2), (12384, 12392, 0x33C5), (12393, 12394, 0x33CF), (12395, 12396, 0x33D3),
   (12397, 12509, 0x33D6), (12510, 12552, 0x3448), (12553, 12850, 0x3474), (12851, 12961, 0x359F),
   (12962, 12972, 0x360F), (12973, 13737, 0x361B), (13738, 13822, 0x3919), (13823, 13918, 0x396F),
   (13919, 13932, 0x39D1), (13933, 14079, 0x39E0), (14080, 14297, 0x3A74), (14298, 14584, 0x3B4F),
   (14585, 14697, 0x3C6F), (14698, 15582, 0x3CE1), (15583, 15846, 0x4057), (15847, 16317, 0x4160),
   (16318, 16433, 0x4338), (16434, 16437, 0x43AD), (16438, 16480, 0x43B2), (16481, 16728, 0x43DE),
   (16729, 17101, 0x44D7), (17102, 17121, 0x464D), (17122, 17314, 0x4662), (17315, 17319, 0x4724),
   (17320, 17401, 0x472A), (17402, 17417, 0x477D), (17418, 17858, 0x478E), (17859, 17908, 0x4948),
   (17909, 17910, 0x497B), (17911, 17914, 0x497E), (17915, 17915, 0x4984), (17916, 17935, 0x4987),
   (17936, 17938, 0x499C), (17939, 17960, 0x49A0), (17961, 18663, 0x49B8), (18664, 18702, 0x4C78),
   (18703, 18813, 0x4CA4), (18814, 18961, 0x4D1A), (18962, 19042, 0x4DAF), (19043, 33468, 0x9FA6),
   (33469, 33469, 0xE76C), (33470, 33470, 0xE7C8), (33471, 33483, 0xE7E7), (33484, 33484, 0xE815),
   (33485, 33489, 0xE819), (33490, 33496, 0xE81F), (33497, 33500, 0xE827), (33501, 33504, 0xE82D),
   (33505, 33512, 0xE833), (33513, 33519, 0xE83C), (33520, 33535, 0xE844), (33536, 33549, 0xE856),
   (33550, 37844, 0xE865), (37845, 37920, 0xF92D), (37921, 37947, 0xF97A), (37948, 38028, 0xF996),
   (38029, 38037, 0xF9E8), (38038, 38063, 0xF9F2), (38064, 38064, 0xFA10), (38065, 38065, 0xFA12),
   (38066, 38068, 0xFA15), (38069, 38074, 0xFA19), (38075, 38075, 0xFA22), (38076, 38077, 0xFA25),
   (38078, 39107, 0xFA2A), (39108, 39108, 0xFE32), (39109, 39112, 0xFE45), (39113, 39113, 0xFE53),
   (39114, 39114, 0xFE58), (39115, 39115, 0xFE67), (39116, 39264, 0xFE6C), (39265, 39393, 0xFF5F),
   (39394, 39419, 0xFFE6)]

end NumberSpan

end InstanceCatalog.Text.Charset
