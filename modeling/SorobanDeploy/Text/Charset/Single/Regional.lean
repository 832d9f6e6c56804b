import SorobanDeploy.Text.Charset.Single

/-!
# Further sets of one octet a character
-/

namespace SorobanDeploy.Text.Charset

/-- The sets that serve some languages each, outside of the larger families. -/
def regionalSets : List Single := [
  ⟨"koi8_r", ["cskoi8r"],
    "0-7F>0 80>2500 81>2502 82>250C 83>2510 84>2514 85>2518 86>251C 87>2524 88>252C 89>2534 8A>253C
    8B>2580 8C>2584 8D>2588 8E>258C 8F-92>2590 93>2320 94>25A0 95-96>2219 97>2248 98-99>2264 9A>A0
    9B>2321 9C>B0 9D>B2 9E>B7 9F>F7 A0-A2>2550 A3>451 A4-B2>2553 B3>401 B4-BE>2562 BF>A9 C0>44E
    C1-C2>430 C3>446 C4-C5>434 C6>444 C7>433 C8>445 C9-D0>438 D1>44F D2-D5>440 D6>436 D7>432
    D8>44C D9>44B DA>437 DB>448 DC>44D DD>449 DE>447 DF>44A E0>42E E1-E2>410 E3>426 E4-E5>414
    E6>424 E7>413 E8>425 E9-F0>418 F1>42F F2-F5>420 F6>416 F7>412 F8>42C F9>42B FA>417 FB>428
    FC>42D FD>429 FE>427 FF>42A"⟩,
  ⟨"koi8_t", [],
    "0-7F>0 80>49B 81>493 82>201A 83>492 84>201E 85>2026 86-87>2020 89>2030 8A>4B3 8B>2039 8C>4B2
    8D>4B7 8E>4B6 90>49A 91-92>2018 93-94>201C 95>2022 96-97>2013 99>2122 9B>203A A1>4EF A2>4EE
    A3>451 A4>A4 A5>4E3 A6-A7>A6 AB-AE>AB B0-B2>B0 B3>401 B5>4E2 B6-B7>B6 B9>2116 BB>BB BF>A9
    C0>44E C1-C2>430 C3>446 C4-C5>434 C6>444 C7>433 C8>445 C9-D0>438 D1>44F D2-D5>440 D6>436
    D7>432 D8>44C D9>44B DA>437 DB>448 DC>44D DD>449 DE>447 DF>44A E0>42E E1-E2>410 E3>426
    E4-E5>414 E6>424 E7>413 E8>425 E9-F0>418 F1>42F F2-F5>420 F6>416 F7>412 F8>42C F9>42B FA>417
    FB>428 FC>42D FD>429 FE>427 FF>42A"⟩,
  ⟨"koi8_u", [],
    "0-7F>0 80>2500 81>2502 82>250C 83>2510 84>2514 85>2518 86>251C 87>2524 88>252C 89>2534 8A>253C
    8B>2580 8C>2584 8D>2588 8E>258C 8F-92>2590 93>2320 94>25A0 95-96>2219 97>2248 98-99>2264 9A>A0
    9B>2321 9C>B0 9D>B2 9E>B7 9F>F7 A0-A2>2550 A3>451 A4>454 A5>2554 A6-A7>456 A8-AC>2557 AD>491
    AE-B2>255D B3>401 B4>404 B5>2563 B6-B7>406 B8-BC>2566 BD>490 BE>256C BF>A9 C0>44E C1-C2>430
    C3>446 C4-C5>434 C6>444 C7>433 C8>445 C9-D0>438 D1>44F D2-D5>440 D6>436 D7>432 D8>44C D9>44B
    DA>437 DB>448 DC>44D DD>449 DE>447 DF>44A E0>42E E1-E2>410 E3>426 E4-E5>414 E6>424 E7>413
    E8>425 E9-F0>418 F1>42F F2-F5>420 F6>416 F7>412 F8>42C F9>42B FA>417 FB>428 FC>42D FD>429
    FE>427 FF>42A"⟩,
  ⟨"kz1048", ["kz_1048", "rk1048", "strk1048_2002"],
    "0-7F>0 80-81>402 82>201A 83>453 84>201E 85>2026 86-87>2020 88>20AC 89>2030 8A>409 8B>2039
    8C>40A 8D>49A 8E>4BA 8F>40F 90>452 91-92>2018 93-94>201C 95>2022 96-97>2013 99>2122 9A>459
    9B>203A 9C>45A 9D>49B 9E>4BB 9F>45F A0>A0 A1-A2>4B0 A3>4D8 A4>A4 A5>4E8 A6-A7>A6 A8>401 A9>A9
    AA>492 AB-AE>AB AF>4AE B0-B1>B0 B2>406 B3>456 B4>4E9 B5-B7>B5 B8>451 B9>2116 BA>493 BB>BB
    BC>4D9 BD-BE>4A2 BF>4AF C0-FF>410"⟩,
  ⟨"ptcp154", ["cp154", "csptcp154", "cyrillic_asian", "pt154"],
    "0-7F>0 80>496 81>492 82>4EE 83>493 84>201E 85>2026 86>4B6 87>4AE 88>4B2 89>4AF 8A>4A0 8B>4E2
    8C>4A2 8D>49A 8E>4BA 8F>4B8 90>497 91-92>2018 93-94>201C 95>2022 96-97>2013 98>4B3 99>4B7
    9A>4A1 9B>4E3 9C>4A3 9D>49B 9E>4BB 9F>4B9 A0>A0 A1>40E A2>45E A3>408 A4>4E8 A5>498 A6>4B0
    A7>A7 A8>401 A9>A9 AA>4D8 AB-AC>AB AD>4EF AE>AE AF>49C B0>B0 B1>4B1 B2>406 B3>456 B4>499
    B5>4E9 B6-B7>B6 B8>451 B9>2116 BA>4D9 BB>BB BC>458 BD-BE>4AA BF>49D C0-FF>410"⟩,
  ⟨"tis_620", ["iso_ir_166", "tis620", "tis_620_0", "tis_620_2529_0", "tis_620_2529_1"],
    "0-9F>0 A1-DA>E01 DF-FB>E3F"⟩,
  ⟨"hp_roman8", ["cp1051", "ibm1051", "r8", "roman8"],
    "0-A0>0 A1>C0 A2>C2 A3>C8 A4-A5>CA A6-A7>CE A8>B4 A9>2CB AA>2C6 AB>A8 AC>2DC AD>D9 AE>DB
    AF>20A4 B0>AF B1>DD B2>FD B3>B0 B4>C7 B5>E7 B6>D1 B7>F1 B8>A1 B9>BF BA>A4 BB>A3 BC>A5 BD>A7
    BE>192 BF>A2 C0>E2 C1>EA C2>F4 C3>FB C4>E1 C5>E9 C6>F3 C7>FA C8>E0 C9>E8 CA>F2 CB>F9 CC>E4
    CD>EB CE>F6 CF>FC D0>C5 D1>EE D2>D8 D3>C6 D4>E5 D5>ED D6>F8 D7>E6 D8>C4 D9>EC DA>D6 DB>DC
    DC>C9 DD>EF DE>DF DF>D4 E0>C1 E1>C3 E2>E3 E3>D0 E4>F0 E5>CD E6>CC E7>D3 E8>D2 E9>D5 EA>F5
    EB-EC>160 ED>DA EE>178 EF>FF F0>DE F1>FE F2>B7 F3-F4>B5 F5>BE F6>2014 F7-F8>BC F9>AA FA>BA
    FB>AB FC>25A0 FD>BB FE>B1"⟩,
  ⟨"palmos", [],
    "0-7F>0 80>20AC 81>81 82>201A 83>192 84>201E 85>2026 86-87>2020 88>2C6 89>2030 8A>160 8B>2039
    8C>152 8D>2666 8E>2663 8F>2665 90>2660 91-92>2018 93-94>201C 95>2022 96-97>2013 98>2DC 99>2122
    9A>161 9B>9B 9C>153 9D-9E>9D 9F>178 A0-FF>A0"⟩,
  ⟨"cp1006", [],
    "0-A0>0 A1-AA>6F0 AB>60C AC>61B AD>AD AE>61F AF>FE81 B0-B1>FE8D B2-B3>FE8E B4>FE91 B5>FB56
    B6>FB58 B7>FE93 B8>FE95 B9>FE97 BA>FB66 BB>FB68 BC>FE99 BD>FE9B BE>FE9D BF>FE9F C0>FB7A
    C1>FB7C C2>FEA1 C3>FEA3 C4>FEA5 C5>FEA7 C6>FEA9 C7>FB84 C8>FEAB C9>FEAD CA>FB8C CB>FEAF
    CC>FB8A CD>FEB1 CE>FEB3 CF>FEB5 D0>FEB7 D1>FEB9 D2>FEBB D3>FEBD D4>FEBF D5>FEC1 D6>FEC5
    D7-DF>FEC9 E0>FED3 E1>FED5 E2>FED7 E3>FED9 E4>FEDB E5>FB92 E6>FB94 E7>FEDD E8-EA>FEDF EB>FEE3
    EC>FB9E ED>FEE5 EE>FEE7 EF>FE85 F0>FEED F1>FBA6 F2-F4>FBA8 F5>FE80 F6-F8>FE89 F9-FB>FEF1
    FC>FBB0 FD>FBAE FE-FF>FE7C"⟩]

end SorobanDeploy.Text.Charset
