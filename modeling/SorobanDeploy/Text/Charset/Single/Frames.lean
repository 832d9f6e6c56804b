import SorobanDeploy.Text.Charset.Single

/-!
# Code pages with frames and boxes
-/

namespace SorobanDeploy.Text.Charset

/-- The sets with the pieces of frames and boxes beside the letters of some languages. -/
def frameSets : List Single := [
  ⟨"cp437", ["437", "cspc8codepage437", "ibm437"],
    "0-7F>0 80>C7 81>FC 82>E9 83>E2 84>E4 85>E0 86>E5 87>E7 88-89>EA 8A>E8 8B>EF 8C>EE 8D>EC
    8E-8F>C4 90>C9 91>E6 92>C6 93>F4 94>F6 95>F2 96>FB 97>F9 98>FF 99>D6 9A>DC 9B-9C>A2 9D>A5
    9E>20A7 9F>192 A0>E1 A1>ED A2>F3 A3>FA A4>F1 A5>D1 A6>AA A7>BA A8>BF A9>2310 AA>AC AB>BD AC>BC
    AD>A1 AE>AB AF>BB B0-B2>2591 B3>2502 B4>2524 B5-B6>2561 B7>2556 B8>2555 B9>2563 BA>2551
    BB>2557 BC>255D BD>255C BE>255B BF>2510 C0>2514 C1>2534 C2>252C C3>251C C4>2500 C5>253C
    C6-C7>255E C8>255A C9>2554 CA>2569 CB>2566 CC>2560 CD>2550 CE>256C CF-D0>2567 D1-D2>2564
    D3>2559 D4>2558 D5-D6>2552 D7>256B D8>256A D9>2518 DA>250C DB>2588 DC>2584 DD>258C DE>2590
    DF>2580 E0>3B1 E1>DF E2>393 E3>3C0 E4>3A3 E5>3C3 E6>B5 E7>3C4 E8>3A6 E9>398 EA>3A9 EB>3B4
    EC>221E ED>3C6 EE>3B5 EF>2229 F0>2261 F1>B1 F2>2265 F3>2264 F4-F5>2320 F6>F7 F7>2248 F8>B0
    F9>2219 FA>B7 FB>221A FC>207F FD>B2 FE>25A0 FF>A0"⟩,
  ⟨"cp720", [],
    "0-81>0 82>E9 83>E2 84>84 85>E0 86>86 87>E7 88-89>EA 8A>E8 8B>EF 8C>EE 8D-90>8D 91-92>651 93>F4
    94>A4 95>640 96>FB 97>F9 98-9B>621 9C>A3 9D-AD>625 AE>AB AF>BB B0-B2>2591 B3>2502 B4>2524
    B5-B6>2561 B7>2556 B8>2555 B9>2563 BA>2551 BB>2557 BC>255D BD>255C BE>255B BF>2510 C0>2514
    C1>2534 C2>252C C3>251C C4>2500 C5>253C C6-C7>255E C8>255A C9>2554 CA>2569 CB>2566 CC>2560
    CD>2550 CE>256C CF-D0>2567 D1-D2>2564 D3>2559 D4>2558 D5-D6>2552 D7>256B D8>256A D9>2518
    DA>250C DB>2588 DC>2584 DD>258C DE>2590 DF>2580 E0-E4>636 E5>641 E6>B5 E7-EF>642 F0>2261
    F1-F6>64B F7>2248 F8>B0 F9>2219 FA>B7 FB>221A FC>207F FD>B2 FE>25A0 FF>A0"⟩,
  ⟨"cp737", [],
    "0-7F>0 80-90>391 91-97>3A3 98-A8>3B1 A9>3C3 AA>3C2 AB-AF>3C4 B0-B2>2591 B3>2502 B4>2524
    B5-B6>2561 B7>2556 B8>2555 B9>2563 BA>2551 BB>2557 BC>255D BD>255C BE>255B BF>2510 C0>2514
    C1>2534 C2>252C C3>251C C4>2500 C5>253C C6-C7>255E C8>255A C9>2554 CA>2569 CB>2566 CC>2560
    CD>2550 CE>256C CF-D0>2567 D1-D2>2564 D3>2559 D4>2558 D5-D6>2552 D7>256B D8>256A D9>2518
    DA>250C DB>2588 DC>2584 DD>258C DE>2590 DF>2580 E0>3C9 E1-E3>3AC E4>3CA E5>3AF E6-E7>3CC
    E8>3CB E9>3CE EA>386 EB-ED>388 EE>38C EF-F0>38E F1>B1 F2>2265 F3>2264 F4-F5>3AA F6>F7 F7>2248
    F8>B0 F9>2219 FA>B7 FB>221A FC>207F FD>B2 FE>25A0 FF>A0"⟩,
  ⟨"cp775", ["775", "cspc775baltic", "ibm775"],
    "0-7F>0 80>106 81>FC 82>E9 83>101 84>E4 85>123 86>E5 87>107 88>142 89>113 8A-8B>156 8C>12B
    8D>179 8E-8F>C4 90>C9 91>E6 92>C6 93>14D 94>F6 95>122 96>A2 97-98>15A 99>D6 9A>DC 9B>F8 9C>A3
    9D>D8 9E>D7 9F>A4 A0>100 A1>12A A2>F3 A3-A4>17B A5>17A A6>201D A7>A6 A8>A9 A9>AE AA>AC AB>BD
    AC>BC AD>141 AE>AB AF>BB B0-B2>2591 B3>2502 B4>2524 B5>104 B6>10C B7>118 B8>116 B9>2563
    BA>2551 BB>2557 BC>255D BD>12E BE>160 BF>2510 C0>2514 C1>2534 C2>252C C3>251C C4>2500 C5>253C
    C6>172 C7>16A C8>255A C9>2554 CA>2569 CB>2566 CC>2560 CD>2550 CE>256C CF>17D D0>105 D1>10D
    D2>119 D3>117 D4>12F D5>161 D6>173 D7>16B D8>17E D9>2518 DA>250C DB>2588 DC>2584 DD>258C
    DE>2590 DF>2580 E0>D3 E1>DF E2>14C E3>143 E4>F5 E5>D5 E6>B5 E7>144 E8-E9>136 EA-EB>13B EC>146
    ED>112 EE>145 EF>2019 F0>AD F1>B1 F2>201C F3>BE F4>B6 F5>A7 F6>F7 F7>201E F8>B0 F9>2219 FA>B7
    FB>B9 FC>B3 FD>B2 FE>25A0 FF>A0"⟩,
  ⟨"cp850", ["850", "cspc850multilingual", "ibm850"],
    "0-7F>0 80>C7 81>FC 82>E9 83>E2 84>E4 85>E0 86>E5 87>E7 88-89>EA 8A>E8 8B>EF 8C>EE 8D>EC
    8E-8F>C4 90>C9 91>E6 92>C6 93>F4 94>F6 95>F2 96>FB 97>F9 98>FF 99>D6 9A>DC 9B>F8 9C>A3 9D>D8
    9E>D7 9F>192 A0>E1 A1>ED A2>F3 A3>FA A4>F1 A5>D1 A6>AA A7>BA A8>BF A9>AE AA>AC AB>BD AC>BC
    AD>A1 AE>AB AF>BB B0-B2>2591 B3>2502 B4>2524 B5-B6>C1 B7>C0 B8>A9 B9>2563 BA>2551 BB>2557
    BC>255D BD>A2 BE>A5 BF>2510 C0>2514 C1>2534 C2>252C C3>251C C4>2500 C5>253C C6>E3 C7>C3
    C8>255A C9>2554 CA>2569 CB>2566 CC>2560 CD>2550 CE>256C CF>A4 D0>F0 D1>D0 D2-D3>CA D4>C8
    D5>131 D6-D8>CD D9>2518 DA>250C DB>2588 DC>2584 DD>A6 DE>CC DF>2580 E0>D3 E1>DF E2>D4 E3>D2
    E4>F5 E5>D5 E6>B5 E7>FE E8>DE E9-EA>DA EB>D9 EC>FD ED>DD EE>AF EF>B4 F0>AD F1>B1 F2>2017 F3>BE
    F4>B6 F5>A7 F6>F7 F7>B8 F8>B0 F9>A8 FA>B7 FB>B9 FC>B3 FD>B2 FE>25A0 FF>A0"⟩,
  ⟨"cp852", ["852", "cspcp852", "ibm852"],
    "0-7F>0 80>C7 81>FC 82>E9 83>E2 84>E4 85>16F 86>107 87>E7 88>142 89>EB 8A-8B>150 8C>EE 8D>179
    8E>C4 8F>106 90>C9 91-92>139 93>F4 94>F6 95-96>13D 97-98>15A 99>D6 9A>DC 9B-9C>164 9D>141
    9E>D7 9F>10D A0>E1 A1>ED A2>F3 A3>FA A4-A5>104 A6-A7>17D A8-A9>118 AA>AC AB>17A AC>10C AD>15F
    AE>AB AF>BB B0-B2>2591 B3>2502 B4>2524 B5-B6>C1 B7>11A B8>15E B9>2563 BA>2551 BB>2557 BC>255D
    BD-BE>17B BF>2510 C0>2514 C1>2534 C2>252C C3>251C C4>2500 C5>253C C6-C7>102 C8>255A C9>2554
    CA>2569 CB>2566 CC>2560 CD>2550 CE>256C CF>A4 D0>111 D1>110 D2>10E D3>CB D4>10F D5>147
    D6-D7>CD D8>11B D9>2518 DA>250C DB>2588 DC>2584 DD>162 DE>16E DF>2580 E0>D3 E1>DF E2>D4
    E3-E4>143 E5>148 E6-E7>160 E8>154 E9>DA EA>155 EB>170 EC>FD ED>DD EE>163 EF>B4 F0>AD F1>2DD
    F2>2DB F3>2C7 F4>2D8 F5>A7 F6>F7 F7>B8 F8>B0 F9>A8 FA>2D9 FB>171 FC-FD>158 FE>25A0 FF>A0"⟩,
  ⟨"cp855", ["855", "csibm855", "ibm855"],
    "0-7F>0 80>452 81>402 82>453 83>403 84>451 85>401 86>454 87>404 88>455 89>405 8A>456 8B>406
    8C>457 8D>407 8E>458 8F>408 90>459 91>409 92>45A 93>40A 94>45B 95>40B 96>45C 97>40C 98>45E
    99>40E 9A>45F 9B>40F 9C>44E 9D>42E 9E>44A 9F>42A A0>430 A1>410 A2>431 A3>411 A4>446 A5>426
    A6>434 A7>414 A8>435 A9>415 AA>444 AB>424 AC>433 AD>413 AE>AB AF>BB B0-B2>2591 B3>2502 B4>2524
    B5>445 B6>425 B7>438 B8>418 B9>2563 BA>2551 BB>2557 BC>255D BD>439 BE>419 BF>2510 C0>2514
    C1>2534 C2>252C C3>251C C4>2500 C5>253C C6>43A C7>41A C8>255A C9>2554 CA>2569 CB>2566 CC>2560
    CD>2550 CE>256C CF>A4 D0>43B D1>41B D2>43C D3>41C D4>43D D5>41D D6>43E D7>41E D8>43F D9>2518
    DA>250C DB>2588 DC>2584 DD>41F DE>44F DF>2580 E0>42F E1>440 E2>420 E3>441 E4>421 E5>442 E6>422
    E7>443 E8>423 E9>436 EA>416 EB>432 EC>412 ED>44C EE>42C EF>2116 F0>AD F1>44B F2>42B F3>437
    F4>417 F5>448 F6>428 F7>44D F8>42D F9>449 FA>429 FB>447 FC>427 FD>A7 FE>25A0 FF>A0"⟩,
  ⟨"cp856", [],
    "0-7F>0 80-9A>5D0 9C>A3 9E>D7 A9>AE AA>AC AB>BD AC>BC AE>AB AF>BB B0-B2>2591 B3>2502 B4>2524
    B8>A9 B9>2563 BA>2551 BB>2557 BC>255D BD>A2 BE>A5 BF>2510 C0>2514 C1>2534 C2>252C C3>251C
    C4>2500 C5>253C C8>255A C9>2554 CA>2569 CB>2566 CC>2560 CD>2550 CE>256C CF>A4 D9>2518 DA>250C
    DB>2588 DC>2584 DD>A6 DF>2580 E6>B5 EE>AF EF>B4 F0>AD F1>B1 F2>2017 F3>BE F4>B6 F5>A7 F6>F7
    F7>B8 F8>B0 F9>A8 FA>B7 FB>B9 FC>B3 FD>B2 FE>25A0 FF>A0"⟩,
  ⟨"cp857", ["857", "csibm857", "ibm857"],
    "0-7F>0 80>C7 81>FC 82>E9 83>E2 84>E4 85>E0 86>E5 87>E7 88-89>EA 8A>E8 8B>EF 8C>EE 8D>131
    8E-8F>C4 90>C9 91>E6 92>C6 93>F4 94>F6 95>F2 96>FB 97>F9 98>130 99>D6 9A>DC 9B>F8 9C>A3 9D>D8
    9E-9F>15E A0>E1 A1>ED A2>F3 A3>FA A4>F1 A5>D1 A6-A7>11E A8>BF A9>AE AA>AC AB>BD AC>BC AD>A1
    AE>AB AF>BB B0-B2>2591 B3>2502 B4>2524 B5-B6>C1 B7>C0 B8>A9 B9>2563 BA>2551 BB>2557 BC>255D
    BD>A2 BE>A5 BF>2510 C0>2514 C1>2534 C2>252C C3>251C C4>2500 C5>253C C6>E3 C7>C3 C8>255A
    C9>2554 CA>2569 CB>2566 CC>2560 CD>2550 CE>256C CF>A4 D0>BA D1>AA D2-D3>CA D4>C8 D6-D8>CD
    D9>2518 DA>250C DB>2588 DC>2584 DD>A6 DE>CC DF>2580 E0>D3 E1>DF E2>D4 E3>D2 E4>F5 E5>D5 E6>B5
    E8>D7 E9-EA>DA EB>D9 EC>EC ED>FF EE>AF EF>B4 F0>AD F1>B1 F3>BE F4>B6 F5>A7 F6>F7 F7>B8 F8>B0
    F9>A8 FA>B7 FB>B9 FC>B3 FD>B2 FE>25A0 FF>A0"⟩,
  ⟨"cp858", ["858", "csibm858", "ibm858"],
    "0-7F>0 80>C7 81>FC 82>E9 83>E2 84>E4 85>E0 86>E5 87>E7 88-89>EA 8A>E8 8B>EF 8C>EE 8D>EC
    8E-8F>C4 90>C9 91>E6 92>C6 93>F4 94>F6 95>F2 96>FB 97>F9 98>FF 99>D6 9A>DC 9B>F8 9C>A3 9D>D8
    9E>D7 9F>192 A0>E1 A1>ED A2>F3 A3>FA A4>F1 A5>D1 A6>AA A7>BA A8>BF A9>AE AA>AC AB>BD AC>BC
    AD>A1 AE>AB AF>BB B0-B2>2591 B3>2502 B4>2524 B5-B6>C1 B7>C0 B8>A9 B9>2563 BA>2551 BB>2557
    BC>255D BD>A2 BE>A5 BF>2510 C0>2514 C1>2534 C2>252C C3>251C C4>2500 C5>253C C6>E3 C7>C3
    C8>255A C9>2554 CA>2569 CB>2566 CC>2560 CD>2550 CE>256C CF>A4 D0>F0 D1>D0 D2-D3>CA D4>C8
    D5>20AC D6-D8>CD D9>2518 DA>250C DB>2588 DC>2584 DD>A6 DE>CC DF>2580 E0>D3 E1>DF E2>D4 E3>D2
    E4>F5 E5>D5 E6>B5 E7>FE E8>DE E9-EA>DA EB>D9 EC>FD ED>DD EE>AF EF>B4 F0>AD F1>B1 F2>2017 F3>BE
    F4>B6 F5>A7 F6>F7 F7>B8 F8>B0 F9>A8 FA>B7 FB>B9 FC>B3 FD>B2 FE>25A0 FF>A0"⟩,
  ⟨"cp860", ["860", "csibm860", "ibm860"],
    "0-7F>0 80>C7 81>FC 82>E9 83-84>E2 85>E0 86>C1 87>E7 88>EA 89>CA 8A>E8 8B>CD 8C>D4 8D>EC 8E>C3
    8F>C2 90>C9 91>C0 92>C8 93-94>F4 95>F2 96>DA 97>F9 98>CC 99>D5 9A>DC 9B-9C>A2 9D>D9 9E>20A7
    9F>D3 A0>E1 A1>ED A2>F3 A3>FA A4>F1 A5>D1 A6>AA A7>BA A8>BF A9>D2 AA>AC AB>BD AC>BC AD>A1
    AE>AB AF>BB B0-B2>2591 B3>2502 B4>2524 B5-B6>2561 B7>2556 B8>2555 B9>2563 BA>2551 BB>2557
    BC>255D BD>255C BE>255B BF>2510 C0>2514 C1>2534 C2>252C C3>251C C4>2500 C5>253C C6-C7>255E
    C8>255A C9>2554 CA>2569 CB>2566 CC>2560 CD>2550 CE>256C CF-D0>2567 D1-D2>2564 D3>2559 D4>2558
    D5-D6>2552 D7>256B D8>256A D9>2518 DA>250C DB>2588 DC>2584 DD>258C DE>2590 DF>2580 E0>3B1
    E1>DF E2>393 E3>3C0 E4>3A3 E5>3C3 E6>B5 E7>3C4 E8>3A6 E9>398 EA>3A9 EB>3B4 EC>221E ED>3C6
    EE>3B5 EF>2229 F0>2261 F1>B1 F2>2265 F3>2264 F4-F5>2320 F6>F7 F7>2248 F8>B0 F9>2219 FA>B7
    FB>221A FC>207F FD>B2 FE>25A0 FF>A0"⟩,
  ⟨"cp861", ["861", "cp_is", "csibm861", "ibm861"],
    "0-7F>0 80>C7 81>FC 82>E9 83>E2 84>E4 85>E0 86>E5 87>E7 88-89>EA 8A>E8 8B>D0 8C>F0 8D>DE
    8E-8F>C4 90>C9 91>E6 92>C6 93>F4 94>F6 95>FE 96>FB 97>DD 98>FD 99>D6 9A>DC 9B>F8 9C>A3 9D>D8
    9E>20A7 9F>192 A0>E1 A1>ED A2>F3 A3>FA A4>C1 A5>CD A6>D3 A7>DA A8>BF A9>2310 AA>AC AB>BD AC>BC
    AD>A1 AE>AB AF>BB B0-B2>2591 B3>2502 B4>2524 B5-B6>2561 B7>2556 B8>2555 B9>2563 BA>2551
    BB>2557 BC>255D BD>255C BE>255B BF>2510 C0>2514 C1>2534 C2>252C C3>251C C4>2500 C5>253C
    C6-C7>255E C8>255A C9>2554 CA>2569 CB>2566 CC>2560 CD>2550 CE>256C CF-D0>2567 D1-D2>2564
    D3>2559 D4>2558 D5-D6>2552 D7>256B D8>256A D9>2518 DA>250C DB>2588 DC>2584 DD>258C DE>2590
    DF>2580 E0>3B1 E1>DF E2>393 E3>3C0 E4>3A3 E5>3C3 E6>B5 E7>3C4 E8>3A6 E9>398 EA>3A9 EB>3B4
    EC>221E ED>3C6 EE>3B5 EF>2229 F0>2261 F1>B1 F2>2265 F3>2264 F4-F5>2320 F6>F7 F7>2248 F8>B0
    F9>2219 FA>B7 FB>221A FC>207F FD>B2 FE>25A0 FF>A0"⟩,
  ⟨"cp862", ["862", "cspc862latinhebrew", "ibm862"],
    "0-7F>0 80-9A>5D0 9B-9C>A2 9D>A5 9E>20A7 9F>192 A0>E1 A1>ED A2>F3 A3>FA A4>F1 A5>D1 A6>AA A7>BA
    A8>BF A9>2310 AA>AC AB>BD AC>BC AD>A1 AE>AB AF>BB B0-B2>2591 B3>2502 B4>2524 B5-B6>2561
    B7>2556 B8>2555 B9>2563 BA>2551 BB>2557 BC>255D BD>255C BE>255B BF>2510 C0>2514 C1>2534
    C2>252C C3>251C C4>2500 C5>253C C6-C7>255E C8>255A C9>2554 CA>2569 CB>2566 CC>2560 CD>2550
    CE>256C CF-D0>2567 D1-D2>2564 D3>2559 D4>2558 D5-D6>2552 D7>256B D8>256A D9>2518 DA>250C
    DB>2588 DC>2584 DD>258C DE>2590 DF>2580 E0>3B1 E1>DF E2>393 E3>3C0 E4>3A3 E5>3C3 E6>B5 E7>3C4
    E8>3A6 E9>398 EA>3A9 EB>3B4 EC>221E ED>3C6 EE>3B5 EF>2229 F0>2261 F1>B1 F2>2265 F3>2264
    F4-F5>2320 F6>F7 F7>2248 F8>B0 F9>2219 FA>B7 FB>221A FC>207F FD>B2 FE>25A0 FF>A0"⟩,
  ⟨"cp863", ["863", "csibm863", "ibm863"],
    "0-7F>0 80>C7 81>FC 82>E9 83>E2 84>C2 85>E0 86>B6 87>E7 88-89>EA 8A>E8 8B>EF 8C>EE 8D>2017
    8E>C0 8F>A7 90>C9 91>C8 92>CA 93>F4 94>CB 95>CF 96>FB 97>F9 98>A4 99>D4 9A>DC 9B-9C>A2 9D>D9
    9E>DB 9F>192 A0>A6 A1>B4 A2>F3 A3>FA A4>A8 A5>B8 A6>B3 A7>AF A8>CE A9>2310 AA>AC AB>BD AC>BC
    AD>BE AE>AB AF>BB B0-B2>2591 B3>2502 B4>2524 B5-B6>2561 B7>2556 B8>2555 B9>2563 BA>2551
    BB>2557 BC>255D BD>255C BE>255B BF>2510 C0>2514 C1>2534 C2>252C C3>251C C4>2500 C5>253C
    C6-C7>255E C8>255A C9>2554 CA>2569 CB>2566 CC>2560 CD>2550 CE>256C CF-D0>2567 D1-D2>2564
    D3>2559 D4>2558 D5-D6>2552 D7>256B D8>256A D9>2518 DA>250C DB>2588 DC>2584 DD>258C DE>2590
    DF>2580 E0>3B1 E1>DF E2>393 E3>3C0 E4>3A3 E5>3C3 E6>B5 E7>3C4 E8>3A6 E9>398 EA>3A9 EB>3B4
    EC>221E ED>3C6 EE>3B5 EF>2229 F0>2261 F1>B1 F2>2265 F3>2264 F4-F5>2320 F6>F7 F7>2248 F8>B0
    F9>2219 FA>B7 FB>221A FC>207F FD>B2 FE>25A0 FF>A0"⟩,
  ⟨"cp864", ["864", "csibm864", "ibm864"],
    "0-24>0 25>66A 26-7F>26 80>B0 81>B7 82-83>2219 84>2592 85>2500 86>2502 87>253C 88>2524 89>252C
    8A>251C 8B>2534 8C>2510 8D>250C 8E>2514 8F>2518 90>3B2 91>221E 92>3C6 93>B1 94>BD 95>BC
    96>2248 97>AB 98>BB 99-9A>FEF7 9D-9E>FEFB A0>A0 A1>AD A2>FE82 A3-A4>A3 A5>FE84 A8-A9>FE8E
    AA>FE95 AB>FE99 AC>60C AD>FE9D AE>FEA1 AF>FEA5 B0-B9>660 BA>FED1 BB>61B BC>FEB1 BD>FEB5
    BE>FEB9 BF>61F C0>A2 C1-C2>FE80 C3>FE83 C4>FE85 C5>FECA C6>FE8B C7>FE8D C8>FE91 C9>FE93
    CA>FE97 CB>FE9B CC>FE9F CD>FEA3 CE>FEA7 CF>FEA9 D0>FEAB D1>FEAD D2>FEAF D3>FEB3 D4>FEB7
    D5>FEBB D6>FEBF D7>FEC1 D8>FEC5 D9>FECB DA>FECF DB>A6 DC>AC DD>F7 DE>D7 DF>FEC9 E0>640 E1>FED3
    E2>FED7 E3>FEDB E4>FEDF E5>FEE3 E6>FEE7 E7>FEEB E8>FEED E9>FEEF EA>FEF3 EB>FEBD EC>FECC
    ED>FECE EE>FECD EF>FEE1 F0>FE7D F1>651 F2>FEE5 F3>FEE9 F4>FEEC F5>FEF0 F6>FEF2 F7>FED0 F8>FED5
    F9-FA>FEF5 FB>FEDD FC>FED9 FD>FEF1 FE>25A0"⟩,
  ⟨"cp865", ["865", "csibm865", "ibm865"],
    "0-7F>0 80>C7 81>FC 82>E9 83>E2 84>E4 85>E0 86>E5 87>E7 88-89>EA 8A>E8 8B>EF 8C>EE 8D>EC
    8E-8F>C4 90>C9 91>E6 92>C6 93>F4 94>F6 95>F2 96>FB 97>F9 98>FF 99>D6 9A>DC 9B>F8 9C>A3 9D>D8
    9E>20A7 9F>192 A0>E1 A1>ED A2>F3 A3>FA A4>F1 A5>D1 A6>AA A7>BA A8>BF A9>2310 AA>AC AB>BD AC>BC
    AD>A1 AE>AB AF>A4 B0-B2>2591 B3>2502 B4>2524 B5-B6>2561 B7>2556 B8>2555 B9>2563 BA>2551
    BB>2557 BC>255D BD>255C BE>255B BF>2510 C0>2514 C1>2534 C2>252C C3>251C C4>2500 C5>253C
    C6-C7>255E C8>255A C9>2554 CA>2569 CB>2566 CC>2560 CD>2550 CE>256C CF-D0>2567 D1-D2>2564
    D3>2559 D4>2558 D5-D6>2552 D7>256B D8>256A D9>2518 DA>250C DB>2588 DC>2584 DD>258C DE>2590
    DF>2580 E0>3B1 E1>DF E2>393 E3>3C0 E4>3A3 E5>3C3 E6>B5 E7>3C4 E8>3A6 E9>398 EA>3A9 EB>3B4
    EC>221E ED>3C6 EE>3B5 EF>2229 F0>2261 F1>B1 F2>2265 F3>2264 F4-F5>2320 F6>F7 F7>2248 F8>B0
    F9>2219 FA>B7 FB>221A FC>207F FD>B2 FE>25A0 FF>A0"⟩,
  ⟨"cp866", ["866", "csibm866", "ibm866"],
    "0-7F>0 80-AF>410 B0-B2>2591 B3>2502 B4>2524 B5-B6>2561 B7>2556 B8>2555 B9>2563 BA>2551 BB>2557
    BC>255D BD>255C BE>255B BF>2510 C0>2514 C1>2534 C2>252C C3>251C C4>2500 C5>253C C6-C7>255E
    C8>255A C9>2554 CA>2569 CB>2566 CC>2560 CD>2550 CE>256C CF-D0>2567 D1-D2>2564 D3>2559 D4>2558
    D5-D6>2552 D7>256B D8>256A D9>2518 DA>250C DB>2588 DC>2584 DD>258C DE>2590 DF>2580 E0-EF>440
    F0>401 F1>451 F2>404 F3>454 F4>407 F5>457 F6>40E F7>45E F8>B0 F9>2219 FA>B7 FB>221A FC>2116
    FD>A4 FE>25A0 FF>A0"⟩,
  ⟨"cp869", ["869", "cp_gr", "csibm869", "ibm869"],
    "0-7F>0 86>386 88>B7 89>AC 8A>A6 8B-8C>2018 8D>388 8E>2015 8F-90>389 91>3AA 92>38C 95>38E
    96>3AB 97>A9 98>38F 99-9A>B2 9B>3AC 9C>A3 9D-9F>3AD A0>3CA A1>390 A2-A3>3CC A4-AA>391 AB>BD
    AC-AD>398 AE>AB AF>BB B0-B2>2591 B3>2502 B4>2524 B5-B8>39A B9>2563 BA>2551 BB>2557 BC>255D
    BD-BE>39E BF>2510 C0>2514 C1>2534 C2>252C C3>251C C4>2500 C5>253C C6-C7>3A0 C8>255A C9>2554
    CA>2569 CB>2566 CC>2560 CD>2550 CE>256C CF-D5>3A3 D6-D8>3B1 D9>2518 DA>250C DB>2588 DC>2584
    DD-DE>3B4 DF>2580 E0-EB>3B6 EC>3C3 ED>3C2 EE>3C4 EF>384 F0>AD F1>B1 F2-F4>3C5 F5>A7 F6>3C8
    F7>385 F8>B0 F9>A8 FA>3C9 FB>3CB FC>3B0 FD>3CE FE>25A0 FF>A0"⟩,
  ⟨"cp1125", ["1125", "cp866u", "ibm1125", "ruscii"],
    "0-7F>0 80-AF>410 B0-B2>2591 B3>2502 B4>2524 B5-B6>2561 B7>2556 B8>2555 B9>2563 BA>2551 BB>2557
    BC>255D BD>255C BE>255B BF>2510 C0>2514 C1>2534 C2>252C C3>251C C4>2500 C5>253C C6-C7>255E
    C8>255A C9>2554 CA>2569 CB>2566 CC>2560 CD>2550 CE>256C CF-D0>2567 D1-D2>2564 D3>2559 D4>2558
    D5-D6>2552 D7>256B D8>256A D9>2518 DA>250C DB>2588 DC>2584 DD>258C DE>2590 DF>2580 E0-EF>440
    F0>401 F1>451 F2-F3>490 F4>404 F5>454 F6>406 F7>456 F8>407 F9>457 FA>B7 FB>221A FC>2116 FD>A4
    FE>25A0 FF>A0"⟩]

end SorobanDeploy.Text.Charset
