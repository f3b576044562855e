import TextScan.CharSet

namespace TextScan.Unicode

/-!
# Scripts

The property Script of the Unicode character database, version 17.0, for the scripts that have a
name here.
-/

/-- Characters of the script Cyrillic. -/
def cyrillic : CharSet := ⟨[
  (1024, 1156), (1159, 1327), (7296, 7306), (7467, 7467), (7544, 7544), (11744, 11775),
  (42560, 42655), (65070, 65071), (122928, 122989), (123023, 123023)]⟩

/-- Characters of the script Greek. -/
def greek : CharSet := ⟨[
  (880, 883), (885, 887), (890, 893), (895, 895), (900, 900), (902, 902), (904, 906), (908, 908),
  (910, 929), (931, 993), (1008, 1023), (7462, 7466), (7517, 7521), (7526, 7530), (7615, 7615),
  (7936, 7957), (7960, 7965), (7968, 8005), (8008, 8013), (8016, 8023), (8025, 8025), (8027, 8027),
  (8029, 8029), (8031, 8061), (8064, 8116), (8118, 8132), (8134, 8147), (8150, 8155), (8157, 8175),
  (8178, 8180), (8182, 8190), (8486, 8486), (43877, 43877), (65856, 65934), (65952, 65952),
  (119296, 119365)]⟩

/-- Characters of the script Han. -/
def han : CharSet := ⟨[
  (11904, 11929), (11931, 12019), (12032, 12245), (12293, 12293), (12295, 12295), (12321, 12329),
  (12344, 12347), (13312, 19903), (19968, 40959), (63744, 64109), (64112, 64217), (94178, 94179),
  (94192, 94198), (131072, 173791), (173824, 178205), (178208, 183981), (183984, 191456),
  (191472, 192093), (194560, 195101), (196608, 201546), (201552, 210041)]⟩

/-- Characters of the script Latin. -/
def latin : CharSet := ⟨[
  (65, 90), (97, 122), (170, 170), (186, 186), (192, 214), (216, 246), (248, 696), (736, 740),
  (7424, 7461), (7468, 7516), (7522, 7525), (7531, 7543), (7545, 7614), (7680, 7935), (8305, 8305),
  (8319, 8319), (8336, 8348), (8490, 8491), (8498, 8498), (8526, 8526), (8544, 8584),
  (11360, 11391), (42786, 42887), (42891, 42972), (42993, 43007), (43824, 43866), (43868, 43876),
  (43878, 43881), (64256, 64262), (65313, 65338), (65345, 65370), (67456, 67461), (67463, 67504),
  (67506, 67514), (122624, 122654), (122661, 122666)]⟩

end TextScan.Unicode
