import SorobanDeploy.Text.Charset.Single

/-!
# Code pages with printable characters in place of controls
-/

namespace SorobanDeploy.Text.Charset

/-- The sets that put letters and signs where the upper half of the Latin set has controls. -/
def windowsSets : List Single := [
  ⟨"cp874", [],
    "0-7F>0 80>20AC 85>2026 91-92>2018 93-94>201C 95>2022 96-97>2013 A0>A0 A1-DA>E01 DF-FB>E3F"⟩,
  ⟨"cp1250", ["1250", "windows_1250"],
    "0-7F>0 80>20AC 82>201A 84>201E 85>2026 86-87>2020 89>2030 8A>160 8B>2039 8C>15A 8D>164 8E>17D
    8F>179 91-92>2018 93-94>201C 95>2022 96-97>2013 99>2122 9A>161 9B>203A 9C>15B 9D>165 9E>17E
    9F>17A A0>A0 A1>2C7 A2>2D8 A3>141 A4>A4 A5>104 A6-A9>A6 AA>15E AB-AE>AB AF>17B B0-B1>B0 B2>2DB
    B3>142 B4-B8>B4 B9>105 BA>15F BB>BB BC>13D BD>2DD BE>13E BF>17C C0>154 C1-C2>C1 C3>102 C4>C4
    C5>139 C6>106 C7>C7 C8>10C C9>C9 CA>118 CB>CB CC>11A CD-CE>CD CF>10E D0>110 D1>143 D2>147
    D3-D4>D3 D5>150 D6-D7>D6 D8>158 D9>16E DA>DA DB>170 DC-DD>DC DE>162 DF>DF E0>155 E1-E2>E1
    E3>103 E4>E4 E5>13A E6>107 E7>E7 E8>10D E9>E9 EA>119 EB>EB EC>11B ED-EE>ED EF>10F F0>111
    F1>144 F2>148 F3-F4>F3 F5>151 F6-F7>F6 F8>159 F9>16F FA>FA FB>171 FC-FD>FC FE>163 FF>2D9"⟩,
  ⟨"cp1251", ["1251", "windows_1251"],
    "0-7F>0 80-81>402 82>201A 83>453 84>201E 85>2026 86-87>2020 88>20AC 89>2030 8A>409 8B>2039
    8C>40A 8D>40C 8E>40B 8F>40F 90>452 91-92>2018 93-94>201C 95>2022 96-97>2013 99>2122 9A>459
    9B>203A 9C>45A 9D>45C 9E>45B 9F>45F A0>A0 A1>40E A2>45E A3>408 A4>A4 A5>490 A6-A7>A6 A8>401
    A9>A9 AA>404 AB-AE>AB AF>407 B0-B1>B0 B2>406 B3>456 B4>491 B5-B7>B5 B8>451 B9>2116 BA>454
    BB>BB BC>458 BD>405 BE>455 BF>457 C0-FF>410"⟩,
  ⟨"cp1252", ["1252", "windows_1252"],
    "0-7F>0 80>20AC 82>201A 83>192 84>201E 85>2026 86-87>2020 88>2C6 89>2030 8A>160 8B>2039 8C>152
    8E>17D 91-92>2018 93-94>201C 95>2022 96-97>2013 98>2DC 99>2122 9A>161 9B>203A 9C>153 9E>17E
    9F>178 A0-FF>A0"⟩,
  ⟨"cp1253", ["1253", "windows_1253"],
    "0-7F>0 80>20AC 82>201A 83>192 84>201E 85>2026 86-87>2020 89>2030 8B>2039 91-92>2018 93-94>201C
    95>2022 96-97>2013 99>2122 9B>203A A0>A0 A1-A2>385 A3-A9>A3 AB-AE>AB AF>2015 B0-B3>B0 B4>384
    B5-B7>B5 B8-BA>388 BB>BB BC>38C BD>BD BE-D1>38E D3-FE>3A3"⟩,
  ⟨"cp1254", ["1254", "windows_1254"],
    "0-7F>0 80>20AC 82>201A 83>192 84>201E 85>2026 86-87>2020 88>2C6 89>2030 8A>160 8B>2039 8C>152
    91-92>2018 93-94>201C 95>2022 96-97>2013 98>2DC 99>2122 9A>161 9B>203A 9C>153 9F>178 A0-CF>A0
    D0>11E D1-DC>D1 DD>130 DE>15E DF-EF>DF F0>11F F1-FC>F1 FD>131 FE>15F FF>FF"⟩,
  ⟨"cp1255", ["1255", "windows_1255"],
    "0-7F>0 80>20AC 82>201A 83>192 84>201E 85>2026 86-87>2020 88>2C6 89>2030 8B>2039 91-92>2018
    93-94>201C 95>2022 96-97>2013 98>2DC 99>2122 9B>203A A0-A3>A0 A4>20AA A5-A9>A5 AA>D7 AB-B9>AB
    BA>F7 BB-BF>BB C0-C9>5B0 CB-D3>5BB D4-D8>5F0 E0-FA>5D0 FD-FE>200E"⟩,
  ⟨"cp1256", ["1256", "windows_1256"],
    "0-7F>0 80>20AC 81>67E 82>201A 83>192 84>201E 85>2026 86-87>2020 88>2C6 89>2030 8A>679 8B>2039
    8C>152 8D>686 8E>698 8F>688 90>6AF 91-92>2018 93-94>201C 95>2022 96-97>2013 98>6A9 99>2122
    9A>691 9B>203A 9C>153 9D-9E>200C 9F>6BA A0>A0 A1>60C A2-A9>A2 AA>6BE AB-B9>AB BA>61B BB-BE>BB
    BF>61F C0>6C1 C1-D6>621 D7>D7 D8-DB>637 DC-DF>640 E0>E0 E1>644 E2>E2 E3-E6>645 E7-EB>E7
    EC-ED>649 EE-EF>EE F0-F3>64B F4>F4 F5-F6>64F F7>F7 F8>651 F9>F9 FA>652 FB-FC>FB FD-FE>200E
    FF>6D2"⟩,
  ⟨"cp1257", ["1257", "windows_1257"],
    "0-7F>0 80>20AC 82>201A 84>201E 85>2026 86-87>2020 89>2030 8B>2039 8D>A8 8E>2C7 8F>B8
    91-92>2018 93-94>201C 95>2022 96-97>2013 99>2122 9B>203A 9D>AF 9E>2DB A0>A0 A2-A4>A2 A6-A7>A6
    A8>D8 A9>A9 AA>156 AB-AE>AB AF>C6 B0-B7>B0 B8>F8 B9>B9 BA>157 BB-BE>BB BF>E6 C0>104 C1>12E
    C2>100 C3>106 C4-C5>C4 C6>118 C7>112 C8>10C C9>C9 CA>179 CB>116 CC>122 CD>136 CE>12A CF>13B
    D0>160 D1>143 D2>145 D3>D3 D4>14C D5-D7>D5 D8>172 D9>141 DA>15A DB>16A DC>DC DD>17B DE>17D
    DF>DF E0>105 E1>12F E2>101 E3>107 E4-E5>E4 E6>119 E7>113 E8>10D E9>E9 EA>17A EB>117 EC>123
    ED>137 EE>12B EF>13C F0>161 F1>144 F2>146 F3>F3 F4>14D F5-F7>F5 F8>173 F9>142 FA>15B FB>16B
    FC>FC FD>17C FE>17E FF>2D9"⟩,
  ⟨"cp1258", ["1258", "windows_1258"],
    "0-7F>0 80>20AC 82>201A 83>192 84>201E 85>2026 86-87>2020 88>2C6 89>2030 8B>2039 8C>152
    91-92>2018 93-94>201C 95>2022 96-97>2013 98>2DC 99>2122 9B>203A 9C>153 9F>178 A0-C2>A0 C3>102
    C4-CB>C4 CC>300 CD-CF>CD D0>110 D1>D1 D2>309 D3-D4>D3 D5>1A0 D6-DC>D6 DD>1AF DE>303 DF-E2>DF
    E3>103 E4-EB>E4 EC>301 ED-EF>ED F0>111 F1>F1 F2>323 F3-F4>F3 F5>1A1 F6-FC>F6 FD>1B0 FE>20AB
    FF>FF"⟩]

end SorobanDeploy.Text.Charset
