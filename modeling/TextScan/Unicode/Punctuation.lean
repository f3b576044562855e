import TextScan.CharSet

namespace TextScan.Unicode

/-!
# Punctuation

The general category of punctuation in the Unicode character database, version 17.0.
-/

/-- General categories Pc, Pd, Ps, Pe, Pi, Pf and Po. -/
def punctuation : CharSet := ⟨[
  (33, 35), (37, 42), (44, 47), (58, 59), (63, 64), (91, 93), (95, 95), (123, 123), (125, 125),
  (161, 161), (167, 167), (171, 171), (182, 183), (187, 187), (191, 191), (894, 894), (903, 903),
  (1370, 1375), (1417, 1418), (1470, 1470), (1472, 1472), (1475, 1475), (1478, 1478), (1523, 1524),
  (1545, 1546), (1548, 1549), (1563, 1563), (1565, 1567), (1642, 1645), (1748, 1748), (1792, 1805),
  (2039, 2041), (2096, 2110), (2142, 2142), (2404, 2405), (2416, 2416), (2557, 2557), (2678, 2678),
  (2800, 2800), (3191, 3191), (3204, 3204), (3572, 3572), (3663, 3663), (3674, 3675), (3844, 3858),
  (3860, 3860), (3898, 3901), (3973, 3973), (4048, 4052), (4057, 4058), (4170, 4175), (4347, 4347),
  (4960, 4968), (5120, 5120), (5742, 5742), (5787, 5788), (5867, 5869), (5941, 5942), (6100, 6102),
  (6104, 6106), (6144, 6154), (6468, 6469), (6686, 6687), (6816, 6822), (6824, 6829), (6990, 6991),
  (7002, 7008), (7037, 7039), (7164, 7167), (7227, 7231), (7294, 7295), (7360, 7367), (7379, 7379),
  (8208, 8231), (8240, 8259), (8261, 8273), (8275, 8286), (8317, 8318), (8333, 8334), (8968, 8971),
  (9001, 9002), (10088, 10101), (10181, 10182), (10214, 10223), (10627, 10648), (10712, 10715),
  (10748, 10749), (11513, 11516), (11518, 11519), (11632, 11632), (11776, 11822), (11824, 11855),
  (11858, 11869), (12289, 12291), (12296, 12305), (12308, 12319), (12336, 12336), (12349, 12349),
  (12448, 12448), (12539, 12539), (42238, 42239), (42509, 42511), (42611, 42611), (42622, 42622),
  (42738, 42743), (43124, 43127), (43214, 43215), (43256, 43258), (43260, 43260), (43310, 43311),
  (43359, 43359), (43457, 43469), (43486, 43487), (43612, 43615), (43742, 43743), (43760, 43761),
  (44011, 44011), (64830, 64831), (65040, 65049), (65072, 65106), (65108, 65121), (65123, 65123),
  (65128, 65128), (65130, 65131), (65281, 65283), (65285, 65290), (65292, 65295), (65306, 65307),
  (65311, 65312), (65339, 65341), (65343, 65343), (65371, 65371), (65373, 65373), (65375, 65381),
  (65792, 65794), (66463, 66463), (66512, 66512), (66927, 66927), (67671, 67671), (67871, 67871),
  (67903, 67903), (68176, 68184), (68223, 68223), (68336, 68342), (68409, 68415), (68505, 68508),
  (68974, 68974), (69293, 69293), (69328, 69328), (69461, 69465), (69510, 69513), (69703, 69709),
  (69819, 69820), (69822, 69825), (69952, 69955), (70004, 70005), (70085, 70088), (70093, 70093),
  (70107, 70107), (70109, 70111), (70200, 70205), (70313, 70313), (70612, 70613), (70615, 70616),
  (70731, 70735), (70746, 70747), (70749, 70749), (70854, 70854), (71105, 71127), (71233, 71235),
  (71264, 71276), (71353, 71353), (71484, 71486), (71739, 71739), (72004, 72006), (72162, 72162),
  (72255, 72262), (72346, 72348), (72350, 72354), (72448, 72457), (72673, 72673), (72769, 72773),
  (72816, 72817), (73463, 73464), (73539, 73551), (73727, 73727), (74864, 74868), (77809, 77810),
  (92782, 92783), (92917, 92917), (92983, 92987), (92996, 92996), (93549, 93551), (93847, 93850),
  (94178, 94178), (113823, 113823), (121479, 121483), (124415, 124415), (125278, 125279)]⟩

end TextScan.Unicode
