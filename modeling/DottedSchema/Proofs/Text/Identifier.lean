import DottedSchema.Proofs.Text.CamelCase

/-!
# Identifiers

An identifier starts with a letter or an underscore and goes on with letters, digits, marks and underscores, as of
Unicode 17 (`isIdentifier`). The characters of a name in upper camel case are forms of the letters and digits of its
key, and a form belongs to identifiers where the character itself does (`continues_mapCode`). So it can be seen
from the key whether the name is an identifier (`isIdentifier_upperCamelCase`).
-/
set_option autoImplicit false

namespace DottedSchema.Text

/-- Letters and digits that no identifier has in it, such as a superscript two. -/
def strays : List Span := [
  ⟨178, 179, 1⟩, ⟨185, 185, 1⟩, ⟨188, 190, 1⟩, ⟨890, 890, 1⟩, ⟨2548, 2553, 1⟩, ⟨2930, 2935, 1⟩, ⟨3056, 3058, 1⟩,
  ⟨3192, 3198, 1⟩, ⟨3416, 3422, 1⟩, ⟨3440, 3448, 1⟩, ⟨3882, 3891, 1⟩, ⟨4978, 4988, 1⟩, ⟨6128, 6137, 1⟩, ⟨8304, 8304, 1⟩,
  ⟨8308, 8313, 1⟩, ⟨8320, 8329, 1⟩, ⟨8528, 8543, 1⟩, ⟨8585, 8585, 1⟩, ⟨9312, 9371, 1⟩, ⟨9398, 9471, 1⟩,
  ⟨10102, 10131, 1⟩, ⟨11517, 11517, 1⟩, ⟨11823, 11823, 1⟩, ⟨12690, 12693, 1⟩, ⟨12832, 12841, 1⟩, ⟨12872, 12879, 1⟩,
  ⟨12881, 12895, 1⟩, ⟨12928, 12937, 1⟩, ⟨12977, 12991, 1⟩, ⟨43056, 43061, 1⟩, ⟨64606, 64611, 1⟩, ⟨65018, 65019, 1⟩,
  ⟨65136, 65150, 2⟩, ⟨65799, 65843, 1⟩, ⟨65909, 65912, 1⟩, ⟨65930, 65931, 1⟩, ⟨66273, 66299, 1⟩, ⟨66336, 66339, 1⟩,
  ⟨67672, 67679, 1⟩, ⟨67705, 67711, 1⟩, ⟨67751, 67759, 1⟩, ⟨67835, 67839, 1⟩, ⟨67862, 67867, 1⟩, ⟨68028, 68029, 1⟩,
  ⟨68032, 68047, 1⟩, ⟨68050, 68095, 1⟩, ⟨68160, 68168, 1⟩, ⟨68221, 68222, 1⟩, ⟨68253, 68255, 1⟩, ⟨68331, 68335, 1⟩,
  ⟨68440, 68447, 1⟩, ⟨68472, 68479, 1⟩, ⟨68521, 68527, 1⟩, ⟨68858, 68863, 1⟩, ⟨69216, 69246, 1⟩, ⟨69405, 69414, 1⟩,
  ⟨69457, 69460, 1⟩, ⟨69573, 69579, 1⟩, ⟨69714, 69733, 1⟩, ⟨70113, 70132, 1⟩, ⟨71482, 71483, 1⟩, ⟨71914, 71922, 1⟩,
  ⟨72794, 72812, 1⟩, ⟨73664, 73684, 1⟩, ⟨93019, 93025, 1⟩, ⟨93824, 93846, 1⟩, ⟨119488, 119507, 1⟩, ⟨119520, 119539, 1⟩,
  ⟨119648, 119672, 1⟩, ⟨125127, 125135, 1⟩, ⟨126065, 126123, 1⟩, ⟨126125, 126127, 1⟩, ⟨126129, 126132, 1⟩,
  ⟨126209, 126253, 1⟩, ⟨126255, 126269, 1⟩, ⟨127232, 127244, 1⟩, ⟨127280, 127305, 1⟩, ⟨127312, 127337, 1⟩,
  ⟨127344, 127369, 1⟩]

/-- Letters and digits that no identifier starts with, such as the digits of other scripts. -/
def inners : List Span := [
  ⟨837, 837, 1⟩, ⟨867, 879, 1⟩, ⟨1456, 1469, 1⟩, ⟨1471, 1471, 1⟩, ⟨1473, 1474, 1⟩, ⟨1476, 1477, 1⟩, ⟨1479, 1479, 1⟩,
  ⟨1552, 1562, 1⟩, ⟨1611, 1623, 1⟩, ⟨1625, 1641, 1⟩, ⟨1648, 1648, 1⟩, ⟨1750, 1756, 1⟩, ⟨1761, 1764, 1⟩, ⟨1767, 1768, 1⟩,
  ⟨1773, 1773, 1⟩, ⟨1776, 1785, 1⟩, ⟨1809, 1809, 1⟩, ⟨1840, 1855, 1⟩, ⟨1958, 1968, 1⟩, ⟨1984, 1993, 1⟩, ⟨2070, 2071, 1⟩,
  ⟨2075, 2083, 1⟩, ⟨2085, 2087, 1⟩, ⟨2089, 2092, 1⟩, ⟨2199, 2199, 1⟩, ⟨2260, 2271, 1⟩, ⟨2275, 2281, 1⟩, ⟨2288, 2307, 1⟩,
  ⟨2362, 2363, 1⟩, ⟨2366, 2380, 1⟩, ⟨2382, 2383, 1⟩, ⟨2389, 2391, 1⟩, ⟨2402, 2403, 1⟩, ⟨2406, 2415, 1⟩, ⟨2433, 2435, 1⟩,
  ⟨2494, 2500, 1⟩, ⟨2503, 2504, 1⟩, ⟨2507, 2508, 1⟩, ⟨2519, 2519, 1⟩, ⟨2530, 2531, 1⟩, ⟨2534, 2543, 1⟩, ⟨2561, 2563, 1⟩,
  ⟨2622, 2626, 1⟩, ⟨2631, 2632, 1⟩, ⟨2635, 2636, 1⟩, ⟨2641, 2641, 1⟩, ⟨2662, 2673, 1⟩, ⟨2677, 2677, 1⟩, ⟨2689, 2691, 1⟩,
  ⟨2750, 2757, 1⟩, ⟨2759, 2761, 1⟩, ⟨2763, 2764, 1⟩, ⟨2786, 2787, 1⟩, ⟨2790, 2799, 1⟩, ⟨2810, 2812, 1⟩, ⟨2817, 2819, 1⟩,
  ⟨2878, 2884, 1⟩, ⟨2887, 2888, 1⟩, ⟨2891, 2892, 1⟩, ⟨2902, 2903, 1⟩, ⟨2914, 2915, 1⟩, ⟨2918, 2927, 1⟩, ⟨2946, 2946, 1⟩,
  ⟨3006, 3010, 1⟩, ⟨3014, 3016, 1⟩, ⟨3018, 3020, 1⟩, ⟨3031, 3031, 1⟩, ⟨3046, 3055, 1⟩, ⟨3072, 3076, 1⟩, ⟨3134, 3140, 1⟩,
  ⟨3142, 3144, 1⟩, ⟨3146, 3148, 1⟩, ⟨3157, 3158, 1⟩, ⟨3170, 3171, 1⟩, ⟨3174, 3183, 1⟩, ⟨3201, 3203, 1⟩, ⟨3262, 3268, 1⟩,
  ⟨3270, 3272, 1⟩, ⟨3274, 3276, 1⟩, ⟨3285, 3286, 1⟩, ⟨3298, 3299, 1⟩, ⟨3302, 3311, 1⟩, ⟨3315, 3315, 1⟩, ⟨3328, 3331, 1⟩,
  ⟨3390, 3396, 1⟩, ⟨3398, 3400, 1⟩, ⟨3402, 3404, 1⟩, ⟨3415, 3415, 1⟩, ⟨3426, 3427, 1⟩, ⟨3430, 3439, 1⟩, ⟨3457, 3459, 1⟩,
  ⟨3535, 3540, 1⟩, ⟨3542, 3542, 1⟩, ⟨3544, 3551, 1⟩, ⟨3558, 3567, 1⟩, ⟨3570, 3571, 1⟩, ⟨3633, 3633, 1⟩, ⟨3635, 3642, 1⟩,
  ⟨3661, 3661, 1⟩, ⟨3664, 3673, 1⟩, ⟨3761, 3761, 1⟩, ⟨3763, 3769, 1⟩, ⟨3771, 3772, 1⟩, ⟨3789, 3789, 1⟩, ⟨3792, 3801, 1⟩,
  ⟨3872, 3881, 1⟩, ⟨3953, 3971, 1⟩, ⟨3981, 3991, 1⟩, ⟨3993, 4028, 1⟩, ⟨4139, 4150, 1⟩, ⟨4152, 4152, 1⟩, ⟨4155, 4158, 1⟩,
  ⟨4160, 4169, 1⟩, ⟨4182, 4185, 1⟩, ⟨4190, 4192, 1⟩, ⟨4194, 4196, 1⟩, ⟨4199, 4205, 1⟩, ⟨4209, 4212, 1⟩, ⟨4226, 4237, 1⟩,
  ⟨4239, 4253, 1⟩, ⟨4969, 4977, 1⟩, ⟨5906, 5907, 1⟩, ⟨5938, 5939, 1⟩, ⟨5970, 5971, 1⟩, ⟨6002, 6003, 1⟩, ⟨6070, 6088, 1⟩,
  ⟨6112, 6121, 1⟩, ⟨6160, 6169, 1⟩, ⟨6313, 6313, 1⟩, ⟨6432, 6443, 1⟩, ⟨6448, 6456, 1⟩, ⟨6470, 6479, 1⟩, ⟨6608, 6618, 1⟩,
  ⟨6679, 6683, 1⟩, ⟨6741, 6750, 1⟩, ⟨6753, 6772, 1⟩, ⟨6784, 6793, 1⟩, ⟨6800, 6809, 1⟩, ⟨6847, 6848, 1⟩, ⟨6860, 6862, 1⟩,
  ⟨6912, 6916, 1⟩, ⟨6965, 6979, 1⟩, ⟨6992, 7001, 1⟩, ⟨7040, 7042, 1⟩, ⟨7073, 7081, 1⟩, ⟨7084, 7085, 1⟩, ⟨7088, 7097, 1⟩,
  ⟨7143, 7153, 1⟩, ⟨7204, 7222, 1⟩, ⟨7232, 7241, 1⟩, ⟨7248, 7257, 1⟩, ⟨7635, 7668, 1⟩, ⟨11744, 11775, 1⟩,
  ⟨42528, 42537, 1⟩, ⟨42612, 42619, 1⟩, ⟨42654, 42655, 1⟩, ⟨43010, 43010, 1⟩, ⟨43019, 43019, 1⟩, ⟨43043, 43047, 1⟩,
  ⟨43136, 43137, 1⟩, ⟨43188, 43203, 1⟩, ⟨43205, 43205, 1⟩, ⟨43216, 43225, 1⟩, ⟨43263, 43273, 1⟩, ⟨43302, 43306, 1⟩,
  ⟨43335, 43346, 1⟩, ⟨43392, 43395, 1⟩, ⟨43444, 43455, 1⟩, ⟨43472, 43481, 1⟩, ⟨43493, 43493, 1⟩, ⟨43504, 43513, 1⟩,
  ⟨43561, 43574, 1⟩, ⟨43587, 43587, 1⟩, ⟨43596, 43597, 1⟩, ⟨43600, 43609, 1⟩, ⟨43643, 43645, 1⟩, ⟨43696, 43696, 1⟩,
  ⟨43698, 43700, 1⟩, ⟨43703, 43704, 1⟩, ⟨43710, 43710, 1⟩, ⟨43755, 43759, 1⟩, ⟨43765, 43765, 1⟩, ⟨44003, 44010, 1⟩,
  ⟨44016, 44025, 1⟩, ⟨64286, 64286, 1⟩, ⟨65296, 65305, 1⟩, ⟨65438, 65439, 1⟩, ⟨66422, 66426, 1⟩, ⟨66720, 66729, 1⟩,
  ⟨68097, 68099, 1⟩, ⟨68101, 68102, 1⟩, ⟨68108, 68111, 1⟩, ⟨68900, 68903, 1⟩, ⟨68912, 68921, 1⟩, ⟨68928, 68937, 1⟩,
  ⟨68969, 68969, 1⟩, ⟨69291, 69292, 1⟩, ⟨69370, 69372, 1⟩, ⟨69632, 69634, 1⟩, ⟨69688, 69701, 1⟩, ⟨69734, 69743, 1⟩,
  ⟨69747, 69748, 1⟩, ⟨69760, 69762, 1⟩, ⟨69808, 69816, 1⟩, ⟨69826, 69826, 1⟩, ⟨69872, 69881, 1⟩, ⟨69888, 69890, 1⟩,
  ⟨69927, 69938, 1⟩, ⟨69942, 69951, 1⟩, ⟨69957, 69958, 1⟩, ⟨70016, 70018, 1⟩, ⟨70067, 70079, 1⟩, ⟨70094, 70105, 1⟩,
  ⟨70188, 70196, 1⟩, ⟨70199, 70199, 1⟩, ⟨70206, 70206, 1⟩, ⟨70209, 70209, 1⟩, ⟨70367, 70376, 1⟩, ⟨70384, 70393, 1⟩,
  ⟨70400, 70403, 1⟩, ⟨70462, 70468, 1⟩, ⟨70471, 70472, 1⟩, ⟨70475, 70476, 1⟩, ⟨70487, 70487, 1⟩, ⟨70498, 70499, 1⟩,
  ⟨70584, 70592, 1⟩, ⟨70594, 70594, 1⟩, ⟨70597, 70597, 1⟩, ⟨70599, 70602, 1⟩, ⟨70604, 70605, 1⟩, ⟨70709, 70721, 1⟩,
  ⟨70723, 70725, 1⟩, ⟨70736, 70745, 1⟩, ⟨70832, 70849, 1⟩, ⟨70864, 70873, 1⟩, ⟨71087, 71093, 1⟩, ⟨71096, 71102, 1⟩,
  ⟨71132, 71133, 1⟩, ⟨71216, 71230, 1⟩, ⟨71232, 71232, 1⟩, ⟨71248, 71257, 1⟩, ⟨71339, 71349, 1⟩, ⟨71360, 71369, 1⟩,
  ⟨71376, 71395, 1⟩, ⟨71453, 71466, 1⟩, ⟨71472, 71481, 1⟩, ⟨71724, 71736, 1⟩, ⟨71904, 71913, 1⟩, ⟨71984, 71989, 1⟩,
  ⟨71991, 71992, 1⟩, ⟨71995, 71996, 1⟩, ⟨72000, 72000, 1⟩, ⟨72002, 72002, 1⟩, ⟨72016, 72025, 1⟩, ⟨72145, 72151, 1⟩,
  ⟨72154, 72159, 1⟩, ⟨72164, 72164, 1⟩, ⟨72193, 72202, 1⟩, ⟨72245, 72249, 1⟩, ⟨72251, 72254, 1⟩, ⟨72273, 72283, 1⟩,
  ⟨72330, 72343, 1⟩, ⟨72544, 72551, 1⟩, ⟨72688, 72697, 1⟩, ⟨72751, 72758, 1⟩, ⟨72760, 72766, 1⟩, ⟨72784, 72793, 1⟩,
  ⟨72850, 72871, 1⟩, ⟨72873, 72886, 1⟩, ⟨73009, 73014, 1⟩, ⟨73018, 73018, 1⟩, ⟨73020, 73021, 1⟩, ⟨73023, 73025, 1⟩,
  ⟨73027, 73027, 1⟩, ⟨73031, 73031, 1⟩, ⟨73040, 73049, 1⟩, ⟨73098, 73102, 1⟩, ⟨73104, 73105, 1⟩, ⟨73107, 73110, 1⟩,
  ⟨73120, 73129, 1⟩, ⟨73184, 73193, 1⟩, ⟨73459, 73462, 1⟩, ⟨73472, 73473, 1⟩, ⟨73475, 73475, 1⟩, ⟨73524, 73530, 1⟩,
  ⟨73534, 73536, 1⟩, ⟨73552, 73561, 1⟩, ⟨90398, 90414, 1⟩, ⟨90416, 90425, 1⟩, ⟨92768, 92777, 1⟩, ⟨92864, 92873, 1⟩,
  ⟨93008, 93017, 1⟩, ⟨93552, 93561, 1⟩, ⟨94031, 94031, 1⟩, ⟨94033, 94087, 1⟩, ⟨94095, 94098, 1⟩, ⟨94192, 94193, 1⟩,
  ⟨113822, 113822, 1⟩, ⟨118000, 118009, 1⟩, ⟨120782, 120831, 1⟩, ⟨122880, 122886, 1⟩, ⟨122888, 122904, 1⟩,
  ⟨122907, 122913, 1⟩, ⟨122915, 122916, 1⟩, ⟨122918, 122922, 1⟩, ⟨123023, 123023, 1⟩, ⟨123200, 123209, 1⟩,
  ⟨123632, 123641, 1⟩, ⟨124144, 124153, 1⟩, ⟨124401, 124410, 1⟩, ⟨124643, 124643, 1⟩, ⟨124646, 124646, 1⟩,
  ⟨124654, 124655, 1⟩, ⟨124661, 124661, 1⟩, ⟨125255, 125255, 1⟩, ⟨125264, 125273, 1⟩, ⟨130032, 130041, 1⟩]

/-- Characters that identifiers have in them besides letters and digits, most of them marks. -/
def joiners : List Span := [
  ⟨183, 183, 1⟩, ⟨768, 836, 1⟩, ⟨838, 866, 1⟩, ⟨903, 903, 1⟩, ⟨1155, 1159, 1⟩, ⟨1425, 1455, 1⟩, ⟨1624, 1624, 1⟩,
  ⟨1759, 1760, 1⟩, ⟨1770, 1772, 1⟩, ⟨1856, 1866, 1⟩, ⟨2027, 2035, 1⟩, ⟨2045, 2045, 1⟩, ⟨2072, 2073, 1⟩, ⟨2093, 2093, 1⟩,
  ⟨2137, 2139, 1⟩, ⟨2200, 2207, 1⟩, ⟨2250, 2259, 1⟩, ⟨2272, 2273, 1⟩, ⟨2282, 2287, 1⟩, ⟨2364, 2364, 1⟩, ⟨2381, 2381, 1⟩,
  ⟨2385, 2388, 1⟩, ⟨2492, 2492, 1⟩, ⟨2509, 2509, 1⟩, ⟨2558, 2558, 1⟩, ⟨2620, 2620, 1⟩, ⟨2637, 2637, 1⟩, ⟨2748, 2748, 1⟩,
  ⟨2765, 2765, 1⟩, ⟨2813, 2815, 1⟩, ⟨2876, 2876, 1⟩, ⟨2893, 2893, 1⟩, ⟨2901, 2901, 1⟩, ⟨3021, 3021, 1⟩, ⟨3132, 3132, 1⟩,
  ⟨3149, 3149, 1⟩, ⟨3260, 3260, 1⟩, ⟨3277, 3277, 1⟩, ⟨3387, 3388, 1⟩, ⟨3405, 3405, 1⟩, ⟨3530, 3530, 1⟩, ⟨3655, 3660, 1⟩,
  ⟨3662, 3662, 1⟩, ⟨3770, 3770, 1⟩, ⟨3784, 3788, 1⟩, ⟨3790, 3790, 1⟩, ⟨3864, 3865, 1⟩, ⟨3893, 3897, 2⟩, ⟨3902, 3903, 1⟩,
  ⟨3972, 3972, 1⟩, ⟨3974, 3975, 1⟩, ⟨4038, 4038, 1⟩, ⟨4151, 4151, 1⟩, ⟨4153, 4154, 1⟩, ⟨4957, 4959, 1⟩, ⟨5908, 5909, 1⟩,
  ⟨5940, 5940, 1⟩, ⟨6068, 6069, 1⟩, ⟨6089, 6099, 1⟩, ⟨6109, 6109, 1⟩, ⟨6155, 6157, 1⟩, ⟨6159, 6159, 1⟩, ⟨6457, 6459, 1⟩,
  ⟨6752, 6752, 1⟩, ⟨6773, 6780, 1⟩, ⟨6783, 6783, 1⟩, ⟨6832, 6845, 1⟩, ⟨6849, 6859, 1⟩, ⟨6863, 6877, 1⟩, ⟨6880, 6891, 1⟩,
  ⟨6964, 6964, 1⟩, ⟨6980, 6980, 1⟩, ⟨7019, 7027, 1⟩, ⟨7082, 7083, 1⟩, ⟨7142, 7142, 1⟩, ⟨7154, 7155, 1⟩, ⟨7223, 7223, 1⟩,
  ⟨7376, 7378, 1⟩, ⟨7380, 7400, 1⟩, ⟨7405, 7405, 1⟩, ⟨7412, 7412, 1⟩, ⟨7415, 7417, 1⟩, ⟨7616, 7634, 1⟩, ⟨7669, 7679, 1⟩,
  ⟨8204, 8205, 1⟩, ⟨8255, 8256, 1⟩, ⟨8276, 8276, 1⟩, ⟨8400, 8412, 1⟩, ⟨8417, 8417, 1⟩, ⟨8421, 8432, 1⟩, ⟨8472, 8472, 1⟩,
  ⟨8494, 8494, 1⟩, ⟨11503, 11505, 1⟩, ⟨11647, 11647, 1⟩, ⟨12330, 12335, 1⟩, ⟨12441, 12442, 1⟩, ⟨12539, 12539, 1⟩,
  ⟨42607, 42607, 1⟩, ⟨42620, 42621, 1⟩, ⟨42736, 42737, 1⟩, ⟨43014, 43014, 1⟩, ⟨43052, 43052, 1⟩, ⟨43204, 43204, 1⟩,
  ⟨43232, 43249, 1⟩, ⟨43307, 43309, 1⟩, ⟨43347, 43347, 1⟩, ⟨43443, 43443, 1⟩, ⟨43456, 43456, 1⟩, ⟨43711, 43711, 1⟩,
  ⟨43713, 43713, 1⟩, ⟨43766, 43766, 1⟩, ⟨44012, 44013, 1⟩, ⟨65024, 65039, 1⟩, ⟨65056, 65071, 1⟩, ⟨65075, 65076, 1⟩,
  ⟨65101, 65103, 1⟩, ⟨65343, 65343, 1⟩, ⟨65381, 65381, 1⟩, ⟨66045, 66045, 1⟩, ⟨66272, 66272, 1⟩, ⟨68152, 68154, 1⟩,
  ⟨68159, 68159, 1⟩, ⟨68325, 68326, 1⟩, ⟨68970, 68973, 1⟩, ⟨69373, 69375, 1⟩, ⟨69446, 69456, 1⟩, ⟨69506, 69509, 1⟩,
  ⟨69702, 69702, 1⟩, ⟨69744, 69744, 1⟩, ⟨69759, 69759, 1⟩, ⟨69817, 69818, 1⟩, ⟨69939, 69940, 1⟩, ⟨70003, 70003, 1⟩,
  ⟨70080, 70080, 1⟩, ⟨70089, 70092, 1⟩, ⟨70197, 70198, 1⟩, ⟨70377, 70378, 1⟩, ⟨70459, 70460, 1⟩, ⟨70477, 70477, 1⟩,
  ⟨70502, 70508, 1⟩, ⟨70512, 70516, 1⟩, ⟨70606, 70608, 1⟩, ⟨70610, 70610, 1⟩, ⟨70625, 70626, 1⟩, ⟨70722, 70722, 1⟩,
  ⟨70726, 70726, 1⟩, ⟨70750, 70750, 1⟩, ⟨70850, 70851, 1⟩, ⟨71103, 71104, 1⟩, ⟨71231, 71231, 1⟩, ⟨71350, 71351, 1⟩,
  ⟨71467, 71467, 1⟩, ⟨71737, 71738, 1⟩, ⟨71997, 71998, 1⟩, ⟨72003, 72003, 1⟩, ⟨72160, 72160, 1⟩, ⟨72243, 72244, 1⟩,
  ⟨72263, 72263, 1⟩, ⟨72344, 72345, 1⟩, ⟨72767, 72767, 1⟩, ⟨73026, 73026, 1⟩, ⟨73028, 73029, 1⟩, ⟨73111, 73111, 1⟩,
  ⟨73537, 73538, 1⟩, ⟨73562, 73562, 1⟩, ⟨78912, 78912, 1⟩, ⟨78919, 78933, 1⟩, ⟨90415, 90415, 1⟩, ⟨92912, 92916, 1⟩,
  ⟨92976, 92982, 1⟩, ⟨94180, 94180, 1⟩, ⟨113821, 113821, 1⟩, ⟨118528, 118573, 1⟩, ⟨118576, 118598, 1⟩,
  ⟨119141, 119145, 1⟩, ⟨119149, 119154, 1⟩, ⟨119163, 119170, 1⟩, ⟨119173, 119179, 1⟩, ⟨119210, 119213, 1⟩,
  ⟨119362, 119364, 1⟩, ⟨121344, 121398, 1⟩, ⟨121403, 121452, 1⟩, ⟨121461, 121461, 1⟩, ⟨121476, 121476, 1⟩,
  ⟨121499, 121503, 1⟩, ⟨121505, 121519, 1⟩, ⟨123184, 123190, 1⟩, ⟨123566, 123566, 1⟩, ⟨123628, 123631, 1⟩,
  ⟨124140, 124143, 1⟩, ⟨124398, 124399, 1⟩, ⟨125136, 125142, 1⟩, ⟨125252, 125254, 1⟩, ⟨125256, 125258, 1⟩,
  ⟨917760, 917999, 1⟩]

/-- Letters that have forms in another case, all but a few, and the letters between them. -/
def cased : List (Nat × Nat) := [
  (181, 181), (192, 214), (216, 246), (248, 705), (837, 837), (867, 884), (886, 887), (891, 893), (895, 895),
  (902, 902), (904, 906), (908, 908), (910, 929), (931, 1013), (1015, 1153), (1162, 1327), (1329, 1366), (1376, 1416),
  (4256, 4293), (4295, 4295), (4301, 4301), (4304, 4346), (4348, 4680), (5024, 5109), (5112, 5117), (7296, 7306),
  (7312, 7354), (7357, 7359), (7424, 7615), (7680, 7957), (7960, 7965), (7968, 8005), (8008, 8013), (8016, 8023),
  (8031, 8061), (8064, 8116), (8118, 8124), (8126, 8126), (8130, 8132), (8134, 8140), (8144, 8147), (8150, 8155),
  (8160, 8172), (8178, 8180), (8182, 8188), (8486, 8486), (8490, 8493), (8495, 8505), (8526, 8526), (8544, 8584),
  (11264, 11492), (11499, 11502), (11506, 11507), (11520, 11557), (11559, 11559), (11565, 11565), (42560, 42606),
  (42623, 42735), (42786, 42888), (42891, 42972), (42993, 43013), (43824, 43866), (43888, 44010), (64256, 64262),
  (64275, 64279), (65313, 65338), (65345, 65370), (66560, 66717), (66736, 66771), (66776, 66811), (66928, 66938),
  (66940, 66954), (66956, 66962), (66964, 66965), (66967, 66977), (66979, 66993), (66995, 67001), (67003, 67004),
  (68736, 68786), (68800, 68850), (68928, 68965), (68975, 68997), (71840, 71913), (93760, 93823), (93856, 93880),
  (93883, 93907), (125184, 125251)]

def covers (spans : List Span) (n : Nat) : Bool := spans.any (·.contains n)

def continuesCode (n : Nat) : Bool :=
  if n < 128 then 48 ≤ n && n ≤ 57 || 65 ≤ n && n ≤ 90 || n == 95 || 97 ≤ n && n ≤ 122
  else covers alphanumericSpans n && !covers strays n || covers joiners n

/-- Whether an identifier can start with a code point; two symbols can besides letters and the underscore. -/
def startsCode (n : Nat) : Bool :=
  if n < 128 then 65 ≤ n && n ≤ 90 || n == 95 || 97 ≤ n && n ≤ 122
  else covers alphanumericSpans n && !covers strays n && !covers inners n || n == 8472 || n == 8494

def continuesIdentifier (c : Char) : Bool := continuesCode c.toNat

def startsIdentifier (c : Char) : Bool := startsCode c.toNat

def isIdentifier (name : String) : Bool :=
  name.toList.head?.any startsIdentifier && name.toList.tail.all continuesIdentifier

def keywords : List String :=
  ["False", "None", "True", "and", "as", "assert", "async", "await", "break", "class", "continue", "def", "del", "elif",
    "else", "except", "finally", "for", "from", "global", "if", "import", "in", "is", "lambda", "nonlocal", "not", "or",
    "pass", "raise", "return", "try", "while", "with", "yield"]

def letters (key : String) : List Char := key.toList.filter isAlphanumeric

/-- The first letter of the key has an upper-case form that starts identifiers, and all its letters and digits belong
to identifiers. -/
def isNameable (key : String) : Bool :=
  (letters key).head?.any (fun c => (toUpper c).head?.any startsIdentifier) && (letters key).all continuesIdentifier

variable {spans : List Span} {shifts : List Shift} {expansions : List (Nat × List Nat)} {n m low high : Nat}
  {c d : Char} {cs : List Char} {key parent name : String}

def within (ranges : List (Nat × Nat)) (low high : Nat) : Bool :=
  ranges.any fun r => Nat.ble r.1 low && Nat.ble high r.2

def inSpan (spans : List Span) (low high : Nat) : Bool :=
  spans.any fun s => Nat.beq s.step 1 && Nat.ble s.first low && Nat.ble high s.last

def apart (spans : List Span) (low high : Nat) : Bool :=
  spans.all fun s => Nat.blt high s.first || Nat.blt s.last low

theorem contains_iff {s : Span} : s.contains n = true ↔ s.first ≤ n ∧ n ≤ s.last ∧ (n - s.first) % s.step = 0 := by
  simp [Span.contains, and_assoc]

theorem covers_of_inSpan (h : inSpan spans low high = true) (hlow : low ≤ n) (hhigh : n ≤ high) :
    covers spans n = true := by
  obtain ⟨s, hs, hin⟩ := List.any_eq_true.1 h
  simp only [Bool.and_eq_true, Nat.beq_eq, Nat.ble_eq] at hin
  refine List.any_eq_true.2 ⟨s, hs, contains_iff.2 ⟨by omega, by omega, ?_⟩⟩
  rw [hin.1.1, Nat.mod_one]

theorem covers_of_apart (h : apart spans low high = true) (hlow : low ≤ n) (hhigh : n ≤ high) :
    covers spans n = false := by
  refine List.any_eq_false.2 fun s hs hcontains => ?_
  have hapart := List.all_eq_true.1 h s hs
  simp only [Bool.or_eq_true, Nat.blt_eq] at hapart
  rw [contains_iff] at hcontains
  omega

-- These tables are tested with functions to `Bool`, which the kernel evaluates range by range.
theorem cased_letters : ∀ r ∈ cased,
    (Nat.ble 128 r.1 && inSpan alphanumericSpans r.1 r.2 && apart strays r.1 r.2) = true := by
  decide +kernel

theorem continues_of_cased (h : within cased low high = true) (hlow : low ≤ n) (hhigh : n ≤ high) :
    continuesCode n = true := by
  obtain ⟨r, hr, hin⟩ := List.any_eq_true.1 h
  have hletters := cased_letters r hr
  simp only [Bool.and_eq_true, Nat.ble_eq] at hin hletters
  obtain ⟨⟨hascii, hletter⟩, hstray⟩ := hletters
  rw [continuesCode, if_neg (by omega), covers_of_inSpan hletter (by omega) (by omega),
    covers_of_apart hstray (by omega) (by omega)]
  rfl

/-- Symbols with case, such as letters in circles. -/
def strayRange (low high : Nat) : Bool := Nat.ble 128 low && inSpan strays low high && apart joiners low high

theorem not_continues_of_stray (h : strayRange low high = true) (hlow : low ≤ n) (hhigh : n ≤ high) :
    continuesCode n = false := by
  simp only [strayRange, Bool.and_eq_true, Nat.ble_eq] at h
  obtain ⟨⟨hascii, hstray⟩, hjoiner⟩ := h
  rw [continuesCode, if_neg (by omega), covers_of_inSpan hstray hlow hhigh, covers_of_apart hjoiner hlow hhigh,
    Bool.not_true, Bool.and_false, Bool.or_false]

def Shift.first (s : Shift) : Nat := (s.span.first + s.distance).toNat

def Shift.last (s : Shift) : Nat := (s.span.last + s.distance).toNat

def Span.codes (s : Span) : List Nat := (List.range ((s.last - s.first) / s.step + 1)).map (s.first + · * s.step)

/-- No code point of the span and its form differ in whether identifiers can go on with them. -/
def Shift.keeps (s : Shift) : Bool :=
  within cased s.span.first s.span.last && within cased s.first s.last ||
    strayRange s.span.first s.span.last && strayRange s.first s.last ||
      s.span.codes.all fun n => continuesCode (n + s.distance).toNat == continuesCode n

theorem upperShifts_keep : ∀ s ∈ upperShifts, s.keeps = true := by decide +kernel

theorem lowerShifts_keep : ∀ s ∈ lowerShifts, s.keeps = true := by decide +kernel

theorem expansions_continue : ∀ e ∈ upperExpansions ++ lowerExpansions,
    within cased e.1 e.1 = true ∧ ∀ m ∈ e.2, (within cased m m || continuesCode m) = true := by
  decide +kernel

theorem mem_codes {s : Span} (h : s.contains n = true) : n ∈ s.codes := by
  obtain ⟨hfirst, hlast, hstep⟩ := contains_iff.1 h
  refine List.mem_map.2 ⟨(n - s.first) / s.step, List.mem_range.2 (Nat.lt_succ_of_le ?_), ?_⟩
  · exact Nat.div_le_div_right (Nat.sub_le_sub_right hlast _)
  · rw [Nat.div_mul_cancel (Nat.dvd_of_mod_eq_zero hstep)]
    omega

theorem continues_shift {s : Shift} (hs : s.keeps = true) (h : s.span.contains n = true) :
    continuesCode (n + s.distance).toNat = continuesCode n := by
  obtain ⟨hfirst, hlast, -⟩ := contains_iff.1 h
  have hfirst' : s.first ≤ (n + s.distance).toNat := by
    unfold Shift.first
    omega
  have hlast' : (n + s.distance).toNat ≤ s.last := by
    unfold Shift.last
    omega
  unfold Shift.keeps at hs
  rw [Bool.or_eq_true, Bool.or_eq_true, Bool.and_eq_true, Bool.and_eq_true] at hs
  rcases hs with (⟨hsource, himage⟩ | ⟨hsource, himage⟩) | hall
  · rw [continues_of_cased hsource hfirst hlast, continues_of_cased himage hfirst' hlast']
  · rw [not_continues_of_stray hsource hfirst hlast, not_continues_of_stray himage hfirst' hlast']
  · exact beq_iff_eq.1 (List.all_eq_true.1 hall n (mem_codes h))

theorem continues_mapCode (hshifts : ∀ s ∈ shifts, s.keeps = true)
    (hexpansions : ∀ e ∈ expansions, e ∈ upperExpansions ++ lowerExpansions) (h : m ∈ mapCode shifts expansions n) :
    continuesCode m = continuesCode n := by
  unfold mapCode at h
  split at h
  · rename_i codes hcodes
    obtain ⟨hsource, hform⟩ := expansions_continue _ (hexpansions _ (mem_of_lookup hcodes))
    rw [continues_of_cased hsource (Nat.le_refl _) (Nat.le_refl _)]
    rcases Bool.or_eq_true_iff.1 (hform m h) with hcased | hcontinues
    · exact continues_of_cased hcased (Nat.le_refl _) (Nat.le_refl _)
    · exact hcontinues
  · split at h
    · rename_i s hs
      rw [List.mem_singleton.1 h]
      exact continues_shift (hshifts s (List.mem_of_find?_eq_some hs)) (by simpa using List.find?_some hs)
    · rw [List.mem_singleton.1 h]

theorem isValidChar_of_continues (h : continuesCode n = true) : n.isValidChar := by
  have hvalid : ∀ s ∈ alphanumericSpans ++ joiners,
      (Nat.blt s.last 55296 || Nat.blt 57343 s.first && Nat.blt s.last 1114112) = true := by
    decide +kernel
  have hcovered : ∀ spans : List Span, (∀ s ∈ spans, s ∈ alphanumericSpans ++ joiners) → covers spans n = true →
      n.isValidChar := by
    intro spans hspans hcovers
    obtain ⟨s, hs, hcontains⟩ := List.any_eq_true.1 hcovers
    have hcodes := hvalid s (hspans s hs)
    simp only [Bool.or_eq_true, Bool.and_eq_true, Nat.blt_eq] at hcodes
    obtain ⟨hfirst, hlast, -⟩ := contains_iff.1 hcontains
    unfold Nat.isValidChar
    omega
  unfold continuesCode at h
  split at h
  · exact .inl (by omega)
  · rcases Bool.or_eq_true_iff.1 h with h | h
    · exact hcovered alphanumericSpans (fun s hs => List.mem_append_left _ hs) (Bool.and_eq_true_iff.1 h).1
    · exact hcovered joiners (fun s hs => List.mem_append_right _ hs) h

theorem continues_ofNat (n : Nat) : continuesIdentifier (Char.ofNat n) = continuesCode n := by
  unfold continuesIdentifier
  rcases toNat_ofNat n with he | he
  · rw [he]
  · -- Only what is no code point is read as the character 0, and nothing continues with that.
    rw [he]
    cases hn : continuesCode n with
    | false => rfl
    | true =>
      have hvalid := isValidChar_of_continues hn
      rw [Char.ofNat, dif_pos hvalid] at he
      have hzero : n = 0 := he
      rw [hzero] at hn
      cases hn

theorem continues_form (hshifts : ∀ s ∈ shifts, s.keeps = true)
    (hexpansions : ∀ e ∈ expansions, e ∈ upperExpansions ++ lowerExpansions)
    (h : d ∈ (mapCode shifts expansions c.toNat).map Char.ofNat) : continuesIdentifier d = continuesIdentifier c := by
  obtain ⟨m, hm, rfl⟩ := List.mem_map.1 h
  rw [continues_ofNat, continues_mapCode hshifts hexpansions hm]
  rfl

theorem continues_ascii (hn : n < 128) : continuesCode n = true ↔
    48 ≤ n ∧ n ≤ 57 ∨ 65 ≤ n ∧ n ≤ 90 ∨ n = 95 ∨ 97 ≤ n ∧ n ≤ 122 := by
  rw [continuesCode, if_pos hn]
  simp [or_assoc]

/-- Of ASCII only letters have other forms, and these are letters. -/
theorem continues_ascii_form (hc : c.toNat < 128)
    (h : d.toNat = c.toNat ∨ 97 ≤ c.toNat ∧ c.toNat ≤ 122 ∧ d.toNat = c.toNat - 32 ∨
      65 ≤ c.toNat ∧ c.toNat ≤ 90 ∧ d.toNat = c.toNat + 32) :
    continuesIdentifier d = continuesIdentifier c := by
  unfold continuesIdentifier
  rw [Bool.eq_iff_iff, continues_ascii hc, continues_ascii (by omega)]
  omega

theorem continues_toUpper (h : d ∈ toUpper c) : continuesIdentifier d = continuesIdentifier c := by
  unfold toUpper at h
  split at h
  · rename_i hascii
    have hform := toNat_toUpper c
    rw [List.mem_singleton.1 h]
    exact continues_ascii_form (of_decide_eq_true hascii) (by split at hform <;> omega)
  · exact continues_form upperShifts_keep (fun e he => List.mem_append_left _ he) h

theorem continues_toLower (h : d ∈ toLower c) : continuesIdentifier d = continuesIdentifier c := by
  unfold toLower at h
  split at h
  · rename_i hascii
    have hform := toNat_toLower c
    rw [List.mem_singleton.1 h]
    exact continues_ascii_form (of_decide_eq_true hascii) (by split at hform <;> omega)
  · exact continues_form lowerShifts_keep (fun e he => List.mem_append_right _ he) h

theorem all_of_forms (hne : cs ≠ []) (h : ∀ d ∈ cs, continuesIdentifier d = continuesIdentifier c) :
    cs.all continuesIdentifier = continuesIdentifier c := by
  obtain ⟨d, rest, rfl⟩ := List.exists_cons_of_ne_nil hne
  cases hc : continuesIdentifier c with
  | true => exact List.all_eq_true.2 fun e he => (h e he).trans hc
  | false => rw [List.all_cons, (h d List.mem_cons_self).trans hc, Bool.false_and]

theorem all_toUpper (c : Char) : (toUpper c).all continuesIdentifier = continuesIdentifier c :=
  all_of_forms (toUpper_ne_nil c) fun _ => continues_toUpper

theorem toLower_ne_nil (c : Char) : toLower c ≠ [] := by
  unfold toLower
  split
  · exact List.cons_ne_nil _ _
  · exact fun h => mapCode_ne_nil lower_outside.2 (List.map_eq_nil_iff.1 h)

theorem all_toLower (c : Char) : (toLower c).all continuesIdentifier = continuesIdentifier c :=
  all_of_forms (toLower_ne_nil c) fun _ => continues_toLower

theorem all_lowerRest (cs : List Char) : (lowerRest cs).all continuesIdentifier = cs.all continuesIdentifier := by
  induction cs with
  | nil => rfl
  | cons c cs ih =>
    cases cs with
    | nil =>
      rw [lowerRest]
      split
      · rename_i hsigma
        rw [hsigma]
        decide +kernel
      · rw [all_toLower, List.all_cons, List.all_nil, Bool.and_true]
    | cons d rest =>
      rw [lowerRest, List.all_append, all_toLower, ih, List.all_cons]
      · rfl
      · intro he
        cases he

theorem all_capitalize (cs : List Char) : (capitalize cs).all continuesIdentifier = cs.all continuesIdentifier := by
  cases cs with
  | nil => rfl
  | cons c cs => rw [capitalize, List.all_append, all_toUpper, all_lowerRest, List.all_cons]

theorem all_flatMap_capitalize (words : List (List Char)) :
    (words.flatMap capitalize).all continuesIdentifier = words.flatten.all continuesIdentifier := by
  induction words with
  | nil => rfl
  | cons word rest ih => rw [List.flatMap_cons, List.all_append, all_capitalize, ih, List.flatten_cons, List.all_append]

theorem head?_flatMap_capitalize (words : List (List Char)) :
    (words.flatMap capitalize).head? = words.flatten.head?.bind fun c => (toUpper c).head? := by
  induction words with
  | nil => rfl
  | cons word rest ih =>
    cases word with
    | nil => exact ih
    | cons c cs =>
      obtain ⟨d, others, hupper⟩ := List.exists_cons_of_ne_nil (toUpper_ne_nil c)
      rw [List.flatMap_cons, capitalize, hupper]
      simp [hupper]

theorem flatten_pieces (cs : List Char) : (pieces cs).flatten = cs.filter isAlphanumeric := by
  induction cs with
  | nil => rfl
  | cons c cs ih =>
    rw [pieces]
    split
    · rename_i hc
      obtain ⟨piece, rest, hpieces⟩ := List.exists_cons_of_ne_nil (pieces_ne_nil cs)
      rw [hpieces] at ih ⊢
      rw [List.filter_cons_of_pos hc, ← ih]
      rfl
    · rename_i hc
      rw [List.filter_cons_of_neg hc, ← ih]
      rfl

theorem flatten_words (mode : CaseMode) (word cs : List Char) : (words mode word cs).flatten = word.reverse ++ cs := by
  fun_induction words mode word cs with
  | case1 mode word => simp
  | case2 mode word c => simp
  | case3 mode word c next rest _ ih => simp [ih]
  | case4 mode word c next rest _ _ ih => simp [ih]
  | case5 mode word c next rest _ _ ih => simp [ih]

theorem flatten_flatMap_words (pieces : List (List Char)) :
    (pieces.flatMap (words .none [])).flatten = pieces.flatten := by
  induction pieces with
  | nil => rfl
  | cons piece rest ih => rw [List.flatMap_cons, List.flatten_append, flatten_words, ih]; rfl

theorem continues_of_starts (h : startsIdentifier c = true) : continuesIdentifier c = true := by
  have hsymbols : continuesCode 8472 = true ∧ continuesCode 8494 = true := by decide +kernel
  unfold startsIdentifier startsCode at h
  unfold continuesIdentifier
  split at h
  · rename_i hascii
    rw [continues_ascii hascii]
    simp at h
    omega
  · rename_i hascii
    rcases Bool.or_eq_true_iff.1 h with h | h
    · rcases Bool.or_eq_true_iff.1 h with h | h
      · rw [continuesCode, if_neg hascii, (Bool.and_eq_true_iff.1 h).1, Bool.true_or]
      · rw [beq_iff_eq.1 h]
        exact hsymbols.1
    · rw [beq_iff_eq.1 h]
      exact hsymbols.2

theorem isIdentifier_eq (name : String) :
    isIdentifier name = (name.toList.head?.any startsIdentifier && name.toList.all continuesIdentifier) := by
  rw [isIdentifier]
  cases name.toList with
  | nil => rfl
  | cons c cs =>
    cases hc : startsIdentifier c with
    | false => simp [hc]
    | true => simp [hc, continues_of_starts hc]

theorem isIdentifier_upperCamelCase (key : String) : isIdentifier (upperCamelCase key) = isNameable key := by
  have hletters : ((pieces key.toList).flatMap (words .none [])).flatten = letters key := by
    rw [flatten_flatMap_words, flatten_pieces]
    rfl
  rw [isIdentifier_eq, upperCamelCase, String.toList_ofList, all_flatMap_capitalize, head?_flatMap_capitalize, hletters,
    isNameable]
  cases letters key <;> rfl

theorem letters_qualified (parent key : String) : letters (parent ++ "_" ++ key) = letters parent ++ letters key := by
  have hunderscore : letters "_" = [] := by decide
  rw [letters, String.toList_append, String.toList_append, List.filter_append, List.filter_append]
  change letters parent ++ letters "_" ++ letters key = _
  rw [hunderscore, List.append_nil]

theorem isNameable_append (h : isNameable parent = true) (hletters : letters name = letters parent ++ cs)
    (hcs : cs.all continuesIdentifier = true) : isNameable name = true := by
  obtain ⟨hfirst, hall⟩ := Bool.and_eq_true_iff.1 h
  rw [isNameable, hletters, List.all_append, hall, hcs]
  cases hparent : letters parent with
  | nil =>
    rw [hparent] at hfirst
    cases hfirst
  | cons c rest =>
    rw [hparent] at hfirst
    simpa using hfirst

theorem isNameable_qualified (hparent : isNameable parent = true) (hkey : isNameable key = true) :
    isNameable (parent ++ "_" ++ key) = true :=
  isNameable_append hparent (letters_qualified parent key) (Bool.and_eq_true_iff.1 hkey).2

theorem isNameable_numbered (h : isNameable key = true) (n : Nat) : isNameable (key ++ "_" ++ n.repr) = true := by
  have hdigits : digits.all continuesIdentifier = true := by decide
  refine isNameable_append h (letters_qualified key n.repr) (List.all_eq_true.2 fun c hc => ?_)
  have hmem : c ∈ n.repr.toList := (List.mem_filter.1 hc).1
  rw [Nat.toList_repr] at hmem
  exact List.all_eq_true.1 hdigits c (mem_digits (Nat.isDigit_of_mem_toDigits (by decide) (by decide) hmem))

/-- Of the keywords only the constants start with an upper-case letter. -/
theorem not_keyword (h : upperCamelCase key ∉ ["False", "None", "True"]) : upperCamelCase key ∉ keywords := by
  have hlower : ∀ word ∈ keywords, word ∈ ["False", "None", "True"] ∨
      word.toList.head?.any (fun c => 97 ≤ c.toNat && c.toNat ≤ 122) = true := by
    decide
  intro hkeyword
  rcases hlower _ hkeyword with hconstant | hfirst
  · exact h hconstant
  · cases hc : (upperCamelCase key).toList.head? with
    | none =>
      rw [hc] at hfirst
      cases hfirst
    | some c =>
      rw [hc] at hfirst
      have hrange : 97 ≤ c.toNat ∧ c.toNat ≤ 122 := by simpa using hfirst
      have hout := head_upperCamelCase hc
      omega

end DottedSchema.Text
