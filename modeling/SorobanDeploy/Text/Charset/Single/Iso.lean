import SorobanDeploy.Text.Charset.Single

/-!
# Parts of ISO 8859
-/

namespace SorobanDeploy.Text.Charset

/-- The sets with ASCII in their lower half and the letters of some languages in the upper one. -/
def isoSets : List Single := [
  ⟨"iso8859_2", ["csisolatin2", "iso_8859_2", "iso_8859_2_1987", "iso_ir_101", "l2", "latin2"],
    "0-A0>0 A1>104 A2>2D8 A3>141 A4>A4 A5>13D A6>15A A7-A8>A7 A9>160 AA>15E AB>164 AC>179 AD>AD
    AE>17D AF>17B B0>B0 B1>105 B2>2DB B3>142 B4>B4 B5>13E B6>15B B7>2C7 B8>B8 B9>161 BA>15F BB>165
    BC>17A BD>2DD BE>17E BF>17C C0>154 C1-C2>C1 C3>102 C4>C4 C5>139 C6>106 C7>C7 C8>10C C9>C9
    CA>118 CB>CB CC>11A CD-CE>CD CF>10E D0>110 D1>143 D2>147 D3-D4>D3 D5>150 D6-D7>D6 D8>158
    D9>16E DA>DA DB>170 DC-DD>DC DE>162 DF>DF E0>155 E1-E2>E1 E3>103 E4>E4 E5>13A E6>107 E7>E7
    E8>10D E9>E9 EA>119 EB>EB EC>11B ED-EE>ED EF>10F F0>111 F1>144 F2>148 F3-F4>F3 F5>151 F6-F7>F6
    F8>159 F9>16F FA>FA FB>171 FC-FD>FC FE>163 FF>2D9"⟩,
  ⟨"iso8859_3", ["csisolatin3", "iso_8859_3", "iso_8859_3_1988", "iso_ir_109", "l3", "latin3"],
    "0-A0>0 A1>126 A2>2D8 A3-A4>A3 A6>124 A7-A8>A7 A9>130 AA>15E AB>11E AC>134 AD>AD AF>17B B0>B0
    B1>127 B2-B5>B2 B6>125 B7-B8>B7 B9>131 BA>15F BB>11F BC>135 BD>BD BF>17C C0-C2>C0 C4>C4 C5>10A
    C6>108 C7-CF>C7 D1-D4>D1 D5>120 D6-D7>D6 D8>11C D9-DC>D9 DD>16C DE>15C DF-E2>DF E4>E4 E5>10B
    E6>109 E7-EF>E7 F1-F4>F1 F5>121 F6-F7>F6 F8>11D F9-FC>F9 FD>16D FE>15D FF>2D9"⟩,
  ⟨"iso8859_4", ["csisolatin4", "iso_8859_4", "iso_8859_4_1988", "iso_ir_110", "l4", "latin4"],
    "0-A0>0 A1>104 A2>138 A3>156 A4>A4 A5>128 A6>13B A7-A8>A7 A9>160 AA>112 AB>122 AC>166 AD>AD
    AE>17D AF-B0>AF B1>105 B2>2DB B3>157 B4>B4 B5>129 B6>13C B7>2C7 B8>B8 B9>161 BA>113 BB>123
    BC>167 BD>14A BE>17E BF>14B C0>100 C1-C6>C1 C7>12E C8>10C C9>C9 CA>118 CB>CB CC>116 CD-CE>CD
    CF>12A D0>110 D1>145 D2>14C D3>136 D4-D8>D4 D9>172 DA-DC>DA DD>168 DE>16A DF>DF E0>101
    E1-E6>E1 E7>12F E8>10D E9>E9 EA>119 EB>EB EC>117 ED-EE>ED EF>12B F0>111 F1>146 F2>14D F3>137
    F4-F8>F4 F9>173 FA-FC>FA FD>169 FE>16B FF>2D9"⟩,
  ⟨"iso8859_5", ["csisolatincyrillic", "cyrillic", "iso_8859_5", "iso_8859_5_1988", "iso_ir_144"],
    "0-A0>0 A1-AC>401 AD>AD AE-EF>40E F0>2116 F1-FC>451 FD>A7 FE-FF>45E"⟩,
  ⟨"iso8859_6", ["arabic", "asmo_708", "csisolatinarabic", "ecma_114", "iso_8859_6",
    "iso_8859_6_1987", "iso_ir_127"],
    "0-A0>0 A4>A4 AC>60C AD>AD BB>61B BF>61F C1-DA>621 E0-F2>640"⟩,
  ⟨"iso8859_7", ["csisolatingreek", "ecma_118", "elot_928", "greek", "greek8", "iso_8859_7",
    "iso_8859_7_1987", "iso_ir_126"],
    "0-A0>0 A1-A2>2018 A3>A3 A4>20AC A5>20AF A6-A9>A6 AA>37A AB-AD>AB AF>2015 B0-B3>B0 B4-B6>384
    B7>B7 B8-BA>388 BB>BB BC>38C BD>BD BE-D1>38E D3-FE>3A3"⟩,
  ⟨"iso8859_8", ["csisolatinhebrew", "hebrew", "iso_8859_8", "iso_8859_8_1988", "iso_ir_138"],
    "0-A0>0 A2-A9>A2 AA>D7 AB-B9>AB BA>F7 BB-BE>BB DF>2017 E0-FA>5D0 FD-FE>200E"⟩,
  ⟨"iso8859_9", ["csisolatin5", "iso_8859_9", "iso_8859_9_1989", "iso_ir_148", "l5", "latin5"],
    "0-CF>0 D0>11E D1-DC>D1 DD>130 DE>15E DF-EF>DF F0>11F F1-FC>F1 FD>131 FE>15F FF>FF"⟩,
  ⟨"iso8859_10", ["csisolatin6", "iso_8859_10", "iso_8859_10_1992", "iso_ir_157", "l6", "latin6"],
    "0-A0>0 A1>104 A2>112 A3>122 A4>12A A5>128 A6>136 A7>A7 A8>13B A9>110 AA>160 AB>166 AC>17D
    AD>AD AE>16A AF>14A B0>B0 B1>105 B2>113 B3>123 B4>12B B5>129 B6>137 B7>B7 B8>13C B9>111 BA>161
    BB>167 BC>17E BD>2015 BE>16B BF>14B C0>100 C1-C6>C1 C7>12E C8>10C C9>C9 CA>118 CB>CB CC>116
    CD-D0>CD D1>145 D2>14C D3-D6>D3 D7>168 D8>D8 D9>172 DA-DF>DA E0>101 E1-E6>E1 E7>12F E8>10D
    E9>E9 EA>119 EB>EB EC>117 ED-F0>ED F1>146 F2>14D F3-F6>F3 F7>169 F8>F8 F9>173 FA-FE>FA FF>138"⟩,
  ⟨"iso8859_11", ["iso_8859_11", "iso_8859_11_2001", "thai"],
    "0-A0>0 A1-DA>E01 DF-FB>E3F"⟩,
  ⟨"iso8859_13", ["iso_8859_13", "l7", "latin7"],
    "0-A0>0 A1>201D A2-A4>A2 A5>201E A6-A7>A6 A8>D8 A9>A9 AA>156 AB-AE>AB AF>C6 B0-B3>B0 B4>201C
    B5-B7>B5 B8>F8 B9>B9 BA>157 BB-BE>BB BF>E6 C0>104 C1>12E C2>100 C3>106 C4-C5>C4 C6>118 C7>112
    C8>10C C9>C9 CA>179 CB>116 CC>122 CD>136 CE>12A CF>13B D0>160 D1>143 D2>145 D3>D3 D4>14C
    D5-D7>D5 D8>172 D9>141 DA>15A DB>16A DC>DC DD>17B DE>17D DF>DF E0>105 E1>12F E2>101 E3>107
    E4-E5>E4 E6>119 E7>113 E8>10D E9>E9 EA>17A EB>117 EC>123 ED>137 EE>12B EF>13C F0>161 F1>144
    F2>146 F3>F3 F4>14D F5-F7>F5 F8>173 F9>142 FA>15B FB>16B FC>FC FD>17C FE>17E FF>2019"⟩,
  ⟨"iso8859_14", ["iso_8859_14", "iso_8859_14_1998", "iso_celtic", "iso_ir_199", "l8", "latin8"],
    "0-A0>0 A1-A2>1E02 A3>A3 A4-A5>10A A6>1E0A A7>A7 A8>1E80 A9>A9 AA>1E82 AB>1E0B AC>1EF2 AD-AE>AD
    AF>178 B0-B1>1E1E B2-B3>120 B4-B5>1E40 B6>B6 B7>1E56 B8>1E81 B9>1E57 BA>1E83 BB>1E60 BC>1EF3
    BD-BE>1E84 BF>1E61 C0-CF>C0 D0>174 D1-D6>D1 D7>1E6A D8-DD>D8 DE>176 DF-EF>DF F0>175 F1-F6>F1
    F7>1E6B F8-FD>F8 FE>177 FF>FF"⟩,
  ⟨"iso8859_15", ["iso_8859_15", "l9", "latin9"],
    "0-A3>0 A4>20AC A5>A5 A6>160 A7>A7 A8>161 A9-B3>A9 B4>17D B5-B7>B5 B8>17E B9-BB>B9 BC-BD>152
    BE>178 BF-FF>BF"⟩,
  ⟨"iso8859_16", ["iso_8859_16", "iso_8859_16_2001", "iso_ir_226", "l10", "latin10"],
    "0-A0>0 A1-A2>104 A3>141 A4>20AC A5>201E A6>160 A7>A7 A8>161 A9>A9 AA>218 AB>AB AC>179 AD>AD
    AE-AF>17A B0-B1>B0 B2>10C B3>142 B4>17D B5>201D B6-B7>B6 B8>17E B9>10D BA>219 BB>BB BC-BD>152
    BE>178 BF>17C C0-C2>C0 C3>102 C4>C4 C5>106 C6-CF>C6 D0>110 D1>143 D2-D4>D2 D5>150 D6>D6 D7>15A
    D8>170 D9-DC>D9 DD>118 DE>21A DF-E2>DF E3>103 E4>E4 E5>107 E6-EF>E6 F0>111 F1>144 F2-F4>F2
    F5>151 F6>F6 F7>15B F8>171 F9-FC>F9 FD>119 FE>21B FF>FF"⟩]

end SorobanDeploy.Text.Charset
