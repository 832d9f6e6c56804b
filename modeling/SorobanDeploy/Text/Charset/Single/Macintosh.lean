import SorobanDeploy.Text.Charset.Single

/-!
# Code pages of the Macintosh
-/

namespace SorobanDeploy.Text.Charset

/-- The sets of one maker, with the letters of some languages in the upper half. -/
def macintoshSets : List Single := [
  ⟨"mac_arabic", [],
    "0-7F>0 80>C4 81>A0 82>C7 83>C9 84>D1 85>D6 86>DC 87>E1 88>E0 89>E2 8A>E4 8B>6BA 8C>AB 8D>E7
    8E>E9 8F>E8 90-91>EA 92>ED 93>2026 94-95>EE 96>F1 97>F3 98>BB 99>F4 9A-9B>F6 9C>FA 9D>F9
    9E-9F>FB A0-A4>20 A5>66A A6-AB>26 AC>60C AD-AF>2D B0-B9>660 BA>3A BB>61B BC-BE>3C BF>61F
    C0>274A C1-DA>621 DB-DF>5B E0-F2>640 F3>67E F4>679 F5>686 F6>6D5 F7>6A4 F8>6AF F9>688 FA>691
    FB-FD>7B FE>698 FF>6D2"⟩,
  ⟨"mac_croatian", [],
    "0-7F>0 80-81>C4 82>C7 83>C9 84>D1 85>D6 86>DC 87>E1 88>E0 89>E2 8A>E4 8B>E3 8C>E5 8D>E7 8E>E9
    8F>E8 90-91>EA 92>ED 93>EC 94-95>EE 96>F1 97>F3 98>F2 99>F4 9A>F6 9B>F5 9C>FA 9D>F9 9E-9F>FB
    A0>2020 A1>B0 A2-A3>A2 A4>A7 A5>2022 A6>B6 A7>DF A8>AE A9>160 AA>2122 AB>B4 AC>A8 AD>2260
    AE>17D AF>D8 B0>221E B1>B1 B2-B3>2264 B4>2206 B5>B5 B6>2202 B7>2211 B8>220F B9>161 BA>222B
    BB>AA BC>BA BD>3A9 BE>17E BF>F8 C0>BF C1>A1 C2>AC C3>221A C4>192 C5>2248 C6>106 C7>AB C8>10C
    C9>2026 CA>A0 CB>C0 CC>C3 CD>D5 CE-CF>152 D0>110 D1>2014 D2-D3>201C D4-D5>2018 D6>F7 D7>25CA
    D8>F8FF D9>A9 DA>2044 DB>20AC DC-DD>2039 DE>C6 DF>BB E0>2013 E1>B7 E2>201A E3>201E E4>2030
    E5>C2 E6>107 E7>C1 E8>10D E9>C8 EA-EC>CD ED>CC EE-EF>D3 F0>111 F1>D2 F2-F3>DA F4>D9 F5>131
    F6>2C6 F7>2DC F8>AF F9>3C0 FA>CB FB>2DA FC>B8 FD>CA FE>E6 FF>2C7"⟩,
  ⟨"mac_cyrillic", ["maccyrillic"],
    "0-7F>0 80-9F>410 A0>2020 A1>B0 A2>490 A3>A3 A4>A7 A5>2022 A6>B6 A7>406 A8>AE A9>A9 AA>2122
    AB>402 AC>452 AD>2260 AE>403 AF>453 B0>221E B1>B1 B2-B3>2264 B4>456 B5>B5 B6>491 B7>408 B8>404
    B9>454 BA>407 BB>457 BC>409 BD>459 BE>40A BF>45A C0>458 C1>405 C2>AC C3>221A C4>192 C5>2248
    C6>2206 C7>AB C8>BB C9>2026 CA>A0 CB>40B CC>45B CD>40C CE>45C CF>455 D0-D1>2013 D2-D3>201C
    D4-D5>2018 D6>F7 D7>201E D8>40E D9>45E DA>40F DB>45F DC>2116 DD>401 DE>451 DF>44F E0-FE>430
    FF>20AC"⟩,
  ⟨"mac_farsi", [],
    "0-7F>0 80>C4 81>A0 82>C7 83>C9 84>D1 85>D6 86>DC 87>E1 88>E0 89>E2 8A>E4 8B>6BA 8C>AB 8D>E7
    8E>E9 8F>E8 90-91>EA 92>ED 93>2026 94-95>EE 96>F1 97>F3 98>BB 99>F4 9A-9B>F6 9C>FA 9D>F9
    9E-9F>FB A0-A4>20 A5>66A A6-AB>26 AC>60C AD-AF>2D B0-B9>6F0 BA>3A BB>61B BC-BE>3C BF>61F
    C0>274A C1-DA>621 DB-DF>5B E0-F2>640 F3>67E F4>679 F5>686 F6>6D5 F7>6A4 F8>6AF F9>688 FA>691
    FB-FD>7B FE>698 FF>6D2"⟩,
  ⟨"mac_greek", ["macgreek"],
    "0-7F>0 80>C4 81>B9 82>B2 83>C9 84>B3 85>D6 86>DC 87>385 88>E0 89>E2 8A>E4 8B>384 8C>A8 8D>E7
    8E>E9 8F>E8 90-91>EA 92>A3 93>2122 94-95>EE 96>2022 97>BD 98>2030 99>F4 9A>F6 9B>A6 9C>20AC
    9D>F9 9E-9F>FB A0>2020 A1-A2>393 A3>398 A4>39B A5>39E A6>3A0 A7>DF A8>AE A9>A9 AA>3A3 AB>3AA
    AC>A7 AD>2260 AE>B0 AF>B7 B0>391 B1>B1 B2-B3>2264 B4>A5 B5>392 B6-B8>395 B9-BA>399 BB>39C
    BC>3A6 BD>3AB BE-BF>3A8 C0>3AC C1>39D C2>AC C3>39F C4>3A1 C5>2248 C6>3A4 C7>AB C8>BB C9>2026
    CA>A0 CB>3A5 CC>3A7 CD>386 CE>388 CF>153 D0>2013 D1>2015 D2-D3>201C D4-D5>2018 D6>F7 D7-D8>389
    D9>38C DA>38E DB-DD>3AD DE>3CC DF>38F E0>3CD E1-E2>3B1 E3>3C8 E4-E5>3B4 E6>3C6 E7>3B3 E8>3B7
    E9>3B9 EA>3BE EB-EE>3BA EF-F0>3BF F1>3CE F2>3C1 F3-F4>3C3 F5>3B8 F6>3C9 F7>3C2 F8>3C7 F9>3C5
    FA>3B6 FB-FC>3CA FD>390 FE>3B0 FF>AD"⟩,
  ⟨"mac_iceland", ["maciceland"],
    "0-7F>0 80-81>C4 82>C7 83>C9 84>D1 85>D6 86>DC 87>E1 88>E0 89>E2 8A>E4 8B>E3 8C>E5 8D>E7 8E>E9
    8F>E8 90-91>EA 92>ED 93>EC 94-95>EE 96>F1 97>F3 98>F2 99>F4 9A>F6 9B>F5 9C>FA 9D>F9 9E-9F>FB
    A0>DD A1>B0 A2-A3>A2 A4>A7 A5>2022 A6>B6 A7>DF A8>AE A9>A9 AA>2122 AB>B4 AC>A8 AD>2260 AE>C6
    AF>D8 B0>221E B1>B1 B2-B3>2264 B4>A5 B5>B5 B6>2202 B7>2211 B8>220F B9>3C0 BA>222B BB>AA BC>BA
    BD>3A9 BE>E6 BF>F8 C0>BF C1>A1 C2>AC C3>221A C4>192 C5>2248 C6>2206 C7>AB C8>BB C9>2026 CA>A0
    CB>C0 CC>C3 CD>D5 CE-CF>152 D0-D1>2013 D2-D3>201C D4-D5>2018 D6>F7 D7>25CA D8>FF D9>178
    DA>2044 DB>20AC DC>D0 DD>F0 DE>DE DF>FE E0>FD E1>B7 E2>201A E3>201E E4>2030 E5>C2 E6>CA E7>C1
    E8>CB E9>C8 EA-EC>CD ED>CC EE-EF>D3 F0>F8FF F1>D2 F2-F3>DA F4>D9 F5>131 F6>2C6 F7>2DC F8>AF
    F9-FB>2D8 FC>B8 FD>2DD FE>2DB FF>2C7"⟩,
  ⟨"mac_latin2", ["mac_centeuro", "maccentraleurope", "maclatin2"],
    "0-7F>0 80>C4 81-82>100 83>C9 84>104 85>D6 86>DC 87>E1 88>105 89>10C 8A>E4 8B>10D 8C-8D>106
    8E>E9 8F-90>179 91>10E 92>ED 93>10F 94-95>112 96>116 97>F3 98>117 99>F4 9A>F6 9B>F5 9C>FA
    9D-9E>11A 9F>FC A0>2020 A1>B0 A2>118 A3>A3 A4>A7 A5>2022 A6>B6 A7>DF A8>AE A9>A9 AA>2122
    AB>119 AC>A8 AD>2260 AE>123 AF-B0>12E B1>12A B2-B3>2264 B4>12B B5>136 B6>2202 B7>2211 B8>142
    B9-BC>13B BD-BE>139 BF-C0>145 C1>143 C2>AC C3>221A C4>144 C5>147 C6>2206 C7>AB C8>BB C9>2026
    CA>A0 CB>148 CC>150 CD>D5 CE>151 CF>14C D0-D1>2013 D2-D3>201C D4-D5>2018 D6>F7 D7>25CA D8>14D
    D9-DA>154 DB>158 DC-DD>2039 DE>159 DF-E0>156 E1>160 E2>201A E3>201E E4>161 E5-E6>15A E7>C1
    E8-E9>164 EA>CD EB-EC>17D ED>16A EE-EF>D3 F0>16B F1>16E F2>DA F3-F7>16F F8>DD F9>FD FA>137
    FB>17B FC>141 FD>17C FE>122 FF>2C7"⟩,
  ⟨"mac_roman", ["macintosh", "macroman"],
    "0-7F>0 80-81>C4 82>C7 83>C9 84>D1 85>D6 86>DC 87>E1 88>E0 89>E2 8A>E4 8B>E3 8C>E5 8D>E7 8E>E9
    8F>E8 90-91>EA 92>ED 93>EC 94-95>EE 96>F1 97>F3 98>F2 99>F4 9A>F6 9B>F5 9C>FA 9D>F9 9E-9F>FB
    A0>2020 A1>B0 A2-A3>A2 A4>A7 A5>2022 A6>B6 A7>DF A8>AE A9>A9 AA>2122 AB>B4 AC>A8 AD>2260 AE>C6
    AF>D8 B0>221E B1>B1 B2-B3>2264 B4>A5 B5>B5 B6>2202 B7>2211 B8>220F B9>3C0 BA>222B BB>AA BC>BA
    BD>3A9 BE>E6 BF>F8 C0>BF C1>A1 C2>AC C3>221A C4>192 C5>2248 C6>2206 C7>AB C8>BB C9>2026 CA>A0
    CB>C0 CC>C3 CD>D5 CE-CF>152 D0-D1>2013 D2-D3>201C D4-D5>2018 D6>F7 D7>25CA D8>FF D9>178
    DA>2044 DB>20AC DC-DD>2039 DE-DF>FB01 E0>2021 E1>B7 E2>201A E3>201E E4>2030 E5>C2 E6>CA E7>C1
    E8>CB E9>C8 EA-EC>CD ED>CC EE-EF>D3 F0>F8FF F1>D2 F2-F3>DA F4>D9 F5>131 F6>2C6 F7>2DC F8>AF
    F9-FB>2D8 FC>B8 FD>2DD FE>2DB FF>2C7"⟩,
  ⟨"mac_romanian", [],
    "0-7F>0 80-81>C4 82>C7 83>C9 84>D1 85>D6 86>DC 87>E1 88>E0 89>E2 8A>E4 8B>E3 8C>E5 8D>E7 8E>E9
    8F>E8 90-91>EA 92>ED 93>EC 94-95>EE 96>F1 97>F3 98>F2 99>F4 9A>F6 9B>F5 9C>FA 9D>F9 9E-9F>FB
    A0>2020 A1>B0 A2-A3>A2 A4>A7 A5>2022 A6>B6 A7>DF A8>AE A9>A9 AA>2122 AB>B4 AC>A8 AD>2260
    AE>102 AF>218 B0>221E B1>B1 B2-B3>2264 B4>A5 B5>B5 B6>2202 B7>2211 B8>220F B9>3C0 BA>222B
    BB>AA BC>BA BD>3A9 BE>103 BF>219 C0>BF C1>A1 C2>AC C3>221A C4>192 C5>2248 C6>2206 C7>AB C8>BB
    C9>2026 CA>A0 CB>C0 CC>C3 CD>D5 CE-CF>152 D0-D1>2013 D2-D3>201C D4-D5>2018 D6>F7 D7>25CA D8>FF
    D9>178 DA>2044 DB>20AC DC-DD>2039 DE-DF>21A E0>2021 E1>B7 E2>201A E3>201E E4>2030 E5>C2 E6>CA
    E7>C1 E8>CB E9>C8 EA-EC>CD ED>CC EE-EF>D3 F0>F8FF F1>D2 F2-F3>DA F4>D9 F5>131 F6>2C6 F7>2DC
    F8>AF F9-FB>2D8 FC>B8 FD>2DD FE>2DB FF>2C7"⟩,
  ⟨"mac_turkish", ["macturkish"],
    "0-7F>0 80-81>C4 82>C7 83>C9 84>D1 85>D6 86>DC 87>E1 88>E0 89>E2 8A>E4 8B>E3 8C>E5 8D>E7 8E>E9
    8F>E8 90-91>EA 92>ED 93>EC 94-95>EE 96>F1 97>F3 98>F2 99>F4 9A>F6 9B>F5 9C>FA 9D>F9 9E-9F>FB
    A0>2020 A1>B0 A2-A3>A2 A4>A7 A5>2022 A6>B6 A7>DF A8>AE A9>A9 AA>2122 AB>B4 AC>A8 AD>2260 AE>C6
    AF>D8 B0>221E B1>B1 B2-B3>2264 B4>A5 B5>B5 B6>2202 B7>2211 B8>220F B9>3C0 BA>222B BB>AA BC>BA
    BD>3A9 BE>E6 BF>F8 C0>BF C1>A1 C2>AC C3>221A C4>192 C5>2248 C6>2206 C7>AB C8>BB C9>2026 CA>A0
    CB>C0 CC>C3 CD>D5 CE-CF>152 D0-D1>2013 D2-D3>201C D4-D5>2018 D6>F7 D7>25CA D8>FF D9>178
    DA-DB>11E DC-DD>130 DE-DF>15E E0>2021 E1>B7 E2>201A E3>201E E4>2030 E5>C2 E6>CA E7>C1 E8>CB
    E9>C8 EA-EC>CD ED>CC EE-EF>D3 F0>F8FF F1>D2 F2-F3>DA F4>D9 F5>F8A0 F6>2C6 F7>2DC F8>AF
    F9-FB>2D8 FC>B8 FD>2DD FE>2DB FF>2C7"⟩]

end SorobanDeploy.Text.Charset
