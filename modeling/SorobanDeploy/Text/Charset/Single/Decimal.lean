import SorobanDeploy.Text.Charset.Single

/-!
# Code pages that extend binary-coded decimals
-/

namespace SorobanDeploy.Text.Charset

/-- The sets in which the letters stand in groups of nine or ten, and ASCII is nowhere. -/
def decimalSets : List Single := [
  ⟨"cp037", ["037", "csibm037", "ebcdic_cp_ca", "ebcdic_cp_nl", "ebcdic_cp_us", "ebcdic_cp_wt",
    "ibm037", "ibm039"],
    "0-3>0 4>9C 5>9 6>86 7>7F 8>97 9-A>8D B-13>B 14>9D 15>85 16>8 17>87 18-19>18 1A>92 1B>8F
    1C-1F>1C 20-24>80 25>A 26>17 27>1B 28-2C>88 2D-2F>5 30-31>90 32>16 33-36>93 37>4 38-3B>98
    3C-3D>14 3E>9E 3F>1A 40>20 41>A0 42>E2 43>E4 44-45>E0 46>E3 47>E5 48>E7 49>F1 4A>A2 4B>2E
    4C>3C 4D>28 4E>2B 4F>7C 50>26 51-53>E9 54>E8 55-57>ED 58>EC 59>DF 5A>21 5B>24 5C>2A 5D>29
    5E>3B 5F>AC 60>2D 61>2F 62>C2 63>C4 64-65>C0 66>C3 67>C5 68>C7 69>D1 6A>A6 6B>2C 6C>25 6D>5F
    6E-6F>3E 70>F8 71-73>C9 74>C8 75-77>CD 78>CC 79>60 7A>3A 7B>23 7C>40 7D>27 7E>3D 7F>22 80>D8
    81-89>61 8A>AB 8B>BB 8C>F0 8D-8E>FD 8F>B1 90>B0 91-99>6A 9A>AA 9B>BA 9C>E6 9D>B8 9E>C6 9F>A4
    A0>B5 A1>7E A2-A9>73 AA>A1 AB>BF AC>D0 AD-AE>DD AF>AE B0>5E B1>A3 B2>A5 B3>B7 B4>A9 B5>A7
    B6>B6 B7-B9>BC BA>5B BB>5D BC>AF BD>A8 BE>B4 BF>D7 C0>7B C1-C9>41 CA>AD CB>F4 CC>F6 CD-CE>F2
    CF>F5 D0>7D D1-D9>4A DA>B9 DB-DC>FB DD-DE>F9 DF>FF E0>5C E1>F7 E2-E9>53 EA>B2 EB>D4 EC>D6
    ED-EE>D2 EF>D5 F0-F9>30 FA>B3 FB-FC>DB FD-FE>D9 FF>9F"⟩,
  ⟨"cp273", ["273", "csibm273", "ibm273"],
    "0-3>0 4>9C 5>9 6>86 7>7F 8>97 9-A>8D B-13>B 14>9D 15>85 16>8 17>87 18-19>18 1A>92 1B>8F
    1C-1F>1C 20-24>80 25>A 26>17 27>1B 28-2C>88 2D-2F>5 30-31>90 32>16 33-36>93 37>4 38-3B>98
    3C-3D>14 3E>9E 3F>1A 40>20 41>A0 42>E2 43>7B 44-45>E0 46>E3 47>E5 48>E7 49>F1 4A>C4 4B>2E
    4C>3C 4D>28 4E>2B 4F>21 50>26 51-53>E9 54>E8 55-57>ED 58>EC 59>7E 5A>DC 5B>24 5C>2A 5D>29
    5E>3B 5F>5E 60>2D 61>2F 62>C2 63>5B 64-65>C0 66>C3 67>C5 68>C7 69>D1 6A>F6 6B>2C 6C>25 6D>5F
    6E-6F>3E 70>F8 71-73>C9 74>C8 75-77>CD 78>CC 79>60 7A>3A 7B>23 7C>A7 7D>27 7E>3D 7F>22 80>D8
    81-89>61 8A>AB 8B>BB 8C>F0 8D-8E>FD 8F>B1 90>B0 91-99>6A 9A>AA 9B>BA 9C>E6 9D>B8 9E>C6 9F>A4
    A0>B5 A1>DF A2-A9>73 AA>A1 AB>BF AC>D0 AD-AE>DD AF>AE B0-B1>A2 B2>A5 B3>B7 B4>A9 B5>40 B6>B6
    B7-B9>BC BA>AC BB>7C BC>203E BD>A8 BE>B4 BF>D7 C0>E4 C1-C9>41 CA>AD CB>F4 CC>A6 CD-CE>F2 CF>F5
    D0>FC D1-D9>4A DA>B9 DB>FB DC>7D DD-DE>F9 DF>FF E0>D6 E1>F7 E2-E9>53 EA>B2 EB>D4 EC>5C
    ED-EE>D2 EF>D5 F0-F9>30 FA>B3 FB>DB FC>5D FD-FE>D9 FF>9F"⟩,
  ⟨"cp424", ["424", "csibm424", "ebcdic_cp_he", "ibm424"],
    "0-3>0 4>9C 5>9 6>86 7>7F 8>97 9-A>8D B-13>B 14>9D 15>85 16>8 17>87 18-19>18 1A>92 1B>8F
    1C-1F>1C 20-24>80 25>A 26>17 27>1B 28-2C>88 2D-2F>5 30-31>90 32>16 33-36>93 37>4 38-3B>98
    3C-3D>14 3E>9E 3F>1A 40>20 41-49>5D0 4A>A2 4B>2E 4C>3C 4D>28 4E>2B 4F>7C 50>26 51-59>5D9 5A>21
    5B>24 5C>2A 5D>29 5E>3B 5F>AC 60>2D 61>2F 62-69>5E2 6A>A6 6B>2C 6C>25 6D>5F 6E-6F>3E 71>5EA
    74>A0 78>2017 79>60 7A>3A 7B>23 7C>40 7D>27 7E>3D 7F>22 81-89>61 8A>AB 8B>BB 8F>B1 90>B0
    91-99>6A 9D>B8 9F>A4 A0>B5 A1>7E A2-A9>73 AF>AE B0>5E B1>A3 B2>A5 B3>B7 B4>A9 B5>A7 B6>B6
    B7-B9>BC BA>5B BB>5D BC>AF BD>A8 BE>B4 BF>D7 C0>7B C1-C9>41 CA>AD D0>7D D1-D9>4A DA>B9 E0>5C
    E1>F7 E2-E9>53 EA>B2 F0-F9>30 FA>B3 FF>9F"⟩,
  ⟨"cp500", ["500", "csibm500", "ebcdic_cp_be", "ebcdic_cp_ch", "ibm500"],
    "0-3>0 4>9C 5>9 6>86 7>7F 8>97 9-A>8D B-13>B 14>9D 15>85 16>8 17>87 18-19>18 1A>92 1B>8F
    1C-1F>1C 20-24>80 25>A 26>17 27>1B 28-2C>88 2D-2F>5 30-31>90 32>16 33-36>93 37>4 38-3B>98
    3C-3D>14 3E>9E 3F>1A 40>20 41>A0 42>E2 43>E4 44-45>E0 46>E3 47>E5 48>E7 49>F1 4A>5B 4B>2E
    4C>3C 4D>28 4E>2B 4F>21 50>26 51-53>E9 54>E8 55-57>ED 58>EC 59>DF 5A>5D 5B>24 5C>2A 5D>29
    5E>3B 5F>5E 60>2D 61>2F 62>C2 63>C4 64-65>C0 66>C3 67>C5 68>C7 69>D1 6A>A6 6B>2C 6C>25 6D>5F
    6E-6F>3E 70>F8 71-73>C9 74>C8 75-77>CD 78>CC 79>60 7A>3A 7B>23 7C>40 7D>27 7E>3D 7F>22 80>D8
    81-89>61 8A>AB 8B>BB 8C>F0 8D-8E>FD 8F>B1 90>B0 91-99>6A 9A>AA 9B>BA 9C>E6 9D>B8 9E>C6 9F>A4
    A0>B5 A1>7E A2-A9>73 AA>A1 AB>BF AC>D0 AD-AE>DD AF>AE B0-B1>A2 B2>A5 B3>B7 B4>A9 B5>A7 B6>B6
    B7-B9>BC BA>AC BB>7C BC>AF BD>A8 BE>B4 BF>D7 C0>7B C1-C9>41 CA>AD CB>F4 CC>F6 CD-CE>F2 CF>F5
    D0>7D D1-D9>4A DA>B9 DB-DC>FB DD-DE>F9 DF>FF E0>5C E1>F7 E2-E9>53 EA>B2 EB>D4 EC>D6 ED-EE>D2
    EF>D5 F0-F9>30 FA>B3 FB-FC>DB FD-FE>D9 FF>9F"⟩,
  ⟨"cp875", [],
    "0-3>0 4>9C 5>9 6>86 7>7F 8>97 9-A>8D B-13>B 14>9D 15>85 16>8 17>87 18-19>18 1A>92 1B>8F
    1C-1F>1C 20-24>80 25>A 26>17 27>1B 28-2C>88 2D-2F>5 30-31>90 32>16 33-36>93 37>4 38-3B>98
    3C-3D>14 3E>9E 3F>1A 40>20 41-49>391 4A>5B 4B>2E 4C>3C 4D>28 4E>2B 4F>21 50>26 51-58>39A
    59>3A3 5A>5D 5B>24 5C>2A 5D>29 5E>3B 5F>5E 60>2D 61>2F 62-69>3A4 6A>7C 6B>2C 6C>25 6D>5F
    6E-6F>3E 70>A8 71>386 72-73>388 74>A0 75>38A 76>38C 77-78>38E 79>60 7A>3A 7B>23 7C>40 7D>27
    7E>3D 7F>22 80>385 81-89>61 8A-8F>3B1 90>B0 91-99>6A 9A-9F>3B7 A0>B4 A1>7E A2-A9>73 AA-AE>3BD
    AF>3C3 B0>A3 B1-B3>3AC B4>3CA B5>3AF B6-B7>3CC B8>3CB B9>3CE BA>3C2 BB-BF>3C4 C0>7B C1-C9>41
    CA>AD CB>3C9 CC>390 CD>3B0 CE>2018 CF>2015 D0>7D D1-D9>4A DA>B1 DB>BD DC>1A DD>387 DE>2019
    DF>A6 E0>5C E1>1A E2-E9>53 EA>B2 EB>A7 EC>1A ED>1A EE-EF>AB F0-F9>30 FA>B3 FB>A9 FC>1A FD>1A
    FE>BB FF>9F"⟩,
  ⟨"cp1026", ["1026", "csibm1026", "ibm1026"],
    "0-3>0 4>9C 5>9 6>86 7>7F 8>97 9-A>8D B-13>B 14>9D 15>85 16>8 17>87 18-19>18 1A>92 1B>8F
    1C-1F>1C 20-24>80 25>A 26>17 27>1B 28-2C>88 2D-2F>5 30-31>90 32>16 33-36>93 37>4 38-3B>98
    3C-3D>14 3E>9E 3F>1A 40>20 41>A0 42>E2 43>E4 44-45>E0 46>E3 47>E5 48>7B 49>F1 4A>C7 4B>2E
    4C>3C 4D>28 4E>2B 4F>21 50>26 51-53>E9 54>E8 55-57>ED 58>EC 59>DF 5A>11E 5B>130 5C>2A 5D>29
    5E>3B 5F>5E 60>2D 61>2F 62>C2 63>C4 64-65>C0 66>C3 67>C5 68>5B 69>D1 6A>15F 6B>2C 6C>25 6D>5F
    6E-6F>3E 70>F8 71-73>C9 74>C8 75-77>CD 78>CC 79>131 7A>3A 7B>D6 7C>15E 7D>27 7E>3D 7F>DC 80>D8
    81-89>61 8A>AB 8B>BB 8C>7D 8D>60 8E>A6 8F>B1 90>B0 91-99>6A 9A>AA 9B>BA 9C>E6 9D>B8 9E>C6
    9F>A4 A0>B5 A1>F6 A2-A9>73 AA>A1 AB>BF AC>5D AD>24 AE>40 AF>AE B0-B1>A2 B2>A5 B3>B7 B4>A9
    B5>A7 B6>B6 B7-B9>BC BA>AC BB>7C BC>AF BD>A8 BE>B4 BF>D7 C0>E7 C1-C9>41 CA>AD CB>F4 CC>7E
    CD-CE>F2 CF>F5 D0>11F D1-D9>4A DA>B9 DB>FB DC>5C DD-DE>F9 DF>FF E0>FC E1>F7 E2-E9>53 EA>B2
    EB>D4 EC>23 ED-EE>D2 EF>D5 F0-F9>30 FA>B3 FB>DB FC>22 FD-FE>D9 FF>9F"⟩,
  ⟨"cp1140", ["1140", "ibm1140"],
    "0-3>0 4>9C 5>9 6>86 7>7F 8>97 9-A>8D B-13>B 14>9D 15>85 16>8 17>87 18-19>18 1A>92 1B>8F
    1C-1F>1C 20-24>80 25>A 26>17 27>1B 28-2C>88 2D-2F>5 30-31>90 32>16 33-36>93 37>4 38-3B>98
    3C-3D>14 3E>9E 3F>1A 40>20 41>A0 42>E2 43>E4 44-45>E0 46>E3 47>E5 48>E7 49>F1 4A>A2 4B>2E
    4C>3C 4D>28 4E>2B 4F>7C 50>26 51-53>E9 54>E8 55-57>ED 58>EC 59>DF 5A>21 5B>24 5C>2A 5D>29
    5E>3B 5F>AC 60>2D 61>2F 62>C2 63>C4 64-65>C0 66>C3 67>C5 68>C7 69>D1 6A>A6 6B>2C 6C>25 6D>5F
    6E-6F>3E 70>F8 71-73>C9 74>C8 75-77>CD 78>CC 79>60 7A>3A 7B>23 7C>40 7D>27 7E>3D 7F>22 80>D8
    81-89>61 8A>AB 8B>BB 8C>F0 8D-8E>FD 8F>B1 90>B0 91-99>6A 9A>AA 9B>BA 9C>E6 9D>B8 9E>C6 9F>20AC
    A0>B5 A1>7E A2-A9>73 AA>A1 AB>BF AC>D0 AD-AE>DD AF>AE B0>5E B1>A3 B2>A5 B3>B7 B4>A9 B5>A7
    B6>B6 B7-B9>BC BA>5B BB>5D BC>AF BD>A8 BE>B4 BF>D7 C0>7B C1-C9>41 CA>AD CB>F4 CC>F6 CD-CE>F2
    CF>F5 D0>7D D1-D9>4A DA>B9 DB-DC>FB DD-DE>F9 DF>FF E0>5C E1>F7 E2-E9>53 EA>B2 EB>D4 EC>D6
    ED-EE>D2 EF>D5 F0-F9>30 FA>B3 FB-FC>DB FD-FE>D9 FF>9F"⟩]

end SorobanDeploy.Text.Charset
