import RuntimeImage.Text.CharTable

/-!
Symbols, enclosed and squared characters, and radicals, from U+2000 to U+F8FF.
-/

namespace RuntimeImage.HostName.Folding

def symbols : CharTable := .ofText
  "2000>20 2001>20 2002>20 2003>20 2004>20 2005>20 2006>20 2007>20 2008>20 2009>20 200A>20 200B>
   200C> 200D> 2011>2010 2017>20+333 2024>2E 2025>2E+2E 2026>2E+2E+2E 202F>20 2033>2032+2032
   2034>2032+2032+2032 2036>2035+2035 2037>2035+2035+2035 203C>21+21 203E>20+305 2047>3F+3F
   2048>3F+21 2049>21+3F 2057>2032+2032+2032+2032 205F>20 2060> 2070>30 2071>69 2074-2079>34
   207A>2B 207B>2212 207C>3D 207D-207E>28 207F>6E 2080-2089>30 208A>2B 208B>2212 208C>3D
   208D-208E>28 20A8>72+73 2100>61+2F+63 2101>61+2F+73 2102>63 2103>B0+63 2105>63+2F+6F
   2106>63+2F+75 2107>25B 2109>B0+66 210A-210B>67 210C>68 210D>68 210E>68 210F>127 2110>69 2111>69
   2112>6C 2113-2115/2>6C 2116>6E+6F 2119-211B>70 211C>72 211D>72 2120>73+6D 2121>74+65+6C
   2122>74+6D 2124>7A 2126>3C9 2128>7A 212A>6B 212B>61+30A 212C-212D>62 212F>65 2130-2131>65
   2132>214E 2133>6D 2134>6F 2135-2138>5D0 2139>69 213D>3B3 213E>3B3 213F>3C0 2140>2211 2145>64
   2146-2147>64 2148-2149>69 2153>31+2044+33 2154>32+2044+33 2155>31+2044+35 2156>32+2044+35
   2157>33+2044+35 2158>34+2044+35 2159>31+2044+36 215A>35+2044+36 215B>31+2044+38 215C>33+2044+38
   215D>35+2044+38 215E>37+2044+38 215F>31+2044 2160>69 2161>69+69 2162>69+69+69 2163>69+76
   2164>76 2165>76+69 2166>76+69+69 2167>76+69+69+69 2168>69+78 2169>78 216A>78+69 216B>78+69+69
   216C>6C 216D-216E>63 216F>6D 2170>69 2171>69+69 2172>69+69+69 2173>69+76 2174>76 2175>76+69
   2176>76+69+69 2177>76+69+69+69 2178>69+78 2179>78 217A>78+69 217B>78+69+69 217C>6C 217D-217E>63
   217F>6D 2183>2184 219A>2190+338 219B>2192+338 21AE>2194+338 21CD>21D0+338 21CE>21D4+338
   21CF>21D2+338 2204>2203+338 2209>2208+338 220C>220B+338 2224>2223+338 2226>2225+338
   222C>222B+222B 222D>222B+222B+222B 222F>222E+222E 2230>222E+222E+222E 2241>223C+338
   2244>2243+338 2247>2245+338 2249>2248+338 2260>3D+338 2262>2261+338 226D>224D+338 226E>3C+338
   226F>3E+338 2270>2264+338 2271>2265+338 2274>2272+338 2275>2273+338 2278>2276+338 2279>2277+338
   2280>227A+338 2281>227B+338 2284>2282+338 2285>2283+338 2288>2286+338 2289>2287+338
   22AC>22A2+338 22AD>22A8+338 22AE>22A9+338 22AF>22AB+338 22E0>227C+338 22E1>227D+338
   22E2>2291+338 22E3>2292+338 22EA>22B2+338 22EB>22B3+338 22EC>22B4+338 22ED>22B5+338
   2329-232A>3008 2460-2468>31 2469>31+30 246A>31+31 246B>31+32 246C>31+33 246D>31+34 246E>31+35
   246F>31+36 2470>31+37 2471>31+38 2472>31+39 2473>32+30 2474>28+31+29 2475>28+32+29
   2476>28+33+29 2477>28+34+29 2478>28+35+29 2479>28+36+29 247A>28+37+29 247B>28+38+29
   247C>28+39+29 247D>28+31+30+29 247E>28+31+31+29 247F>28+31+32+29 2480>28+31+33+29
   2481>28+31+34+29 2482>28+31+35+29 2483>28+31+36+29 2484>28+31+37+29 2485>28+31+38+29
   2486>28+31+39+29 2487>28+32+30+29 2488>31+2E 2489>32+2E 248A>33+2E 248B>34+2E 248C>35+2E
   248D>36+2E 248E>37+2E 248F>38+2E 2490>39+2E 2491>31+30+2E 2492>31+31+2E 2493>31+32+2E
   2494>31+33+2E 2495>31+34+2E 2496>31+35+2E 2497>31+36+2E 2498>31+37+2E 2499>31+38+2E
   249A>31+39+2E 249B>32+30+2E 249C>28+61+29 249D>28+62+29 249E>28+63+29 249F>28+64+29
   24A0>28+65+29 24A1>28+66+29 24A2>28+67+29 24A3>28+68+29 24A4>28+69+29 24A5>28+6A+29
   24A6>28+6B+29 24A7>28+6C+29 24A8>28+6D+29 24A9>28+6E+29 24AA>28+6F+29 24AB>28+70+29
   24AC>28+71+29 24AD>28+72+29 24AE>28+73+29 24AF>28+74+29 24B0>28+75+29 24B1>28+76+29
   24B2>28+77+29 24B3>28+78+29 24B4>28+79+29 24B5>28+7A+29 24B6-24CF>61 24D0-24E9>61 24EA>30
   2A0C>222B+222B+222B+222B 2A74>3A+3A+3D 2A75>3D+3D 2A76>3D+3D+3D 2ADC>2ADD+338 2C00-2C2F>2C30
   2C60>2C61 2C62>26B 2C63>1D7D 2C64>27D 2C67-2C6B/2>2C68 2C6D>251 2C6E>271 2C6F>250 2C70>252
   2C72>2C73 2C75>2C76 2C7E-2C7F>23F 2C80-2CE2/2>2C81 2CEB-2CED/2>2CEC 2CF2>2CF3 2E9F>6BCD
   2EF3>9F9F 2F00>4E00 2F01>4E28 2F02>4E36 2F03>4E3F 2F04>4E59 2F05>4E85 2F06>4E8C 2F07>4EA0
   2F08>4EBA 2F09>513F 2F0A>5165 2F0B>516B 2F0C>5182 2F0D>5196 2F0E>51AB 2F0F>51E0 2F10>51F5
   2F11>5200 2F12>529B 2F13>52F9 2F14>5315 2F15>531A 2F16>5338 2F17>5341 2F18>535C 2F19>5369
   2F1A>5382 2F1B>53B6 2F1C>53C8 2F1D>53E3 2F1E>56D7 2F1F>571F 2F20>58EB 2F21>5902 2F22>590A
   2F23>5915 2F24>5927 2F25>5973 2F26>5B50 2F27>5B80 2F28>5BF8 2F29>5C0F 2F2A>5C22 2F2B>5C38
   2F2C>5C6E 2F2D>5C71 2F2E>5DDB 2F2F>5DE5 2F30>5DF1 2F31>5DFE 2F32>5E72 2F33>5E7A 2F34>5E7F
   2F35>5EF4 2F36>5EFE 2F37>5F0B 2F38>5F13 2F39>5F50 2F3A>5F61 2F3B>5F73 2F3C>5FC3 2F3D>6208
   2F3E>6236 2F3F>624B 2F40>652F 2F41>6534 2F42>6587 2F43>6597 2F44>65A4 2F45>65B9 2F46>65E0
   2F47>65E5 2F48>66F0 2F49>6708 2F4A>6728 2F4B>6B20 2F4C>6B62 2F4D>6B79 2F4E>6BB3 2F4F>6BCB
   2F50>6BD4 2F51>6BDB 2F52>6C0F 2F53>6C14 2F54>6C34 2F55>706B 2F56>722A 2F57>7236 2F58>723B
   2F59>723F 2F5A>7247 2F5B>7259 2F5C>725B 2F5D>72AC 2F5E>7384 2F5F>7389 2F60>74DC 2F61>74E6
   2F62>7518 2F63>751F 2F64>7528 2F65>7530 2F66>758B 2F67>7592 2F68>7676 2F69>767D 2F6A>76AE
   2F6B>76BF 2F6C>76EE 2F6D>77DB 2F6E>77E2 2F6F>77F3 2F70>793A 2F71>79B8 2F72>79BE 2F73>7A74
   2F74>7ACB 2F75>7AF9 2F76>7C73 2F77>7CF8 2F78>7F36 2F79>7F51 2F7A>7F8A 2F7B>7FBD 2F7C>8001
   2F7D>800C 2F7E>8012 2F7F>8033 2F80>807F 2F81>8089 2F82>81E3 2F83>81EA 2F84>81F3 2F85>81FC
   2F86>820C 2F87>821B 2F88>821F 2F89>826E 2F8A>8272 2F8B>8278 2F8C>864D 2F8D>866B 2F8E>8840
   2F8F>884C 2F90>8863 2F91>897E 2F92>898B 2F93>89D2 2F94>8A00 2F95>8C37 2F96>8C46 2F97>8C55
   2F98>8C78 2F99>8C9D 2F9A>8D64 2F9B>8D70 2F9C>8DB3 2F9D>8EAB 2F9E>8ECA 2F9F>8F9B 2FA0>8FB0
   2FA1>8FB5 2FA2>9091 2FA3>9149 2FA4>91C6 2FA5>91CC 2FA6>91D1 2FA7>9577 2FA8>9580 2FA9>961C
   2FAA>96B6 2FAB>96B9 2FAC>96E8 2FAD>9751 2FAE>975E 2FAF>9762 2FB0>9769 2FB1>97CB 2FB2>97ED
   2FB3>97F3 2FB4>9801 2FB5>98A8 2FB6>98DB 2FB7>98DF 2FB8>9996 2FB9>9999 2FBA>99AC 2FBB>9AA8
   2FBC>9AD8 2FBD>9ADF 2FBE>9B25 2FBF>9B2F 2FC0>9B32 2FC1>9B3C 2FC2>9B5A 2FC3>9CE5 2FC4>9E75
   2FC5>9E7F 2FC6>9EA5 2FC7>9EBB 2FC8>9EC3 2FC9>9ECD 2FCA>9ED1 2FCB>9EF9 2FCC>9EFD 2FCD>9F0E
   2FCE>9F13 2FCF>9F20 2FD0>9F3B 2FD1>9F4A 2FD2>9F52 2FD3>9F8D 2FD4>9F9C 2FD5>9FA0 3000>20
   3036>3012 3038>5341 3039-303A>5344 304C>304B+3099 304E>304D+3099 3050>304F+3099 3052>3051+3099
   3054>3053+3099 3056>3055+3099 3058>3057+3099 305A>3059+3099 305C>305B+3099 305E>305D+3099
   3060>305F+3099 3062>3061+3099 3065>3064+3099 3067>3066+3099 3069>3068+3099 3070>306F+3099
   3071>306F+309A 3073>3072+3099 3074>3072+309A 3076>3075+3099 3077>3075+309A 3079>3078+3099
   307A>3078+309A 307C>307B+3099 307D>307B+309A 3094>3046+3099 309B>20+3099 309C>20+309A
   309E>309D+3099 309F>3088+308A 30AC>30AB+3099 30AE>30AD+3099 30B0>30AF+3099 30B2>30B1+3099
   30B4>30B3+3099 30B6>30B5+3099 30B8>30B7+3099 30BA>30B9+3099 30BC>30BB+3099 30BE>30BD+3099
   30C0>30BF+3099 30C2>30C1+3099 30C5>30C4+3099 30C7>30C6+3099 30C9>30C8+3099 30D0>30CF+3099
   30D1>30CF+309A 30D3>30D2+3099 30D4>30D2+309A 30D6>30D5+3099 30D7>30D5+309A 30D9>30D8+3099
   30DA>30D8+309A 30DC>30DB+3099 30DD>30DB+309A 30F4>30A6+3099 30F7>30EF+3099 30F8>30F0+3099
   30F9>30F1+3099 30FA>30F2+3099 30FE>30FD+3099 30FF>30B3+30C8 3131-3132>1100 3133-3135/2>11AA
   3134>1102 3136>11AD 3137-3139>1103 313A-313F>11B0 3140>111A 3141-3143>1106 3144>1121
   3145-314E>1109 314F-3163>1161 3164>1160 3165-3166>1114 3167-3168>11C7 3169>11CC 316A>11CE
   316B>11D3 316C>11D7 316D>11D9 316E>111C 316F>11DD 3170>11DF 3171-3172>111D 3173>1120
   3174-3175>1122 3176>1127 3177>1129 3178-317C>112B 317D>1132 317E>1136 317F>1140 3180>1147
   3181>114C 3182-3183>11F1 3184-3186>1157 3187-3188>1184 3189>1188 318A-318B>1191 318C>1194
   318D>119E 318E>11A1 3192>4E00 3193>4E8C 3194>4E09 3195>56DB 3196>4E0A 3197>4E2D 3198>4E0B
   3199>7532 319A>4E59 319B>4E19 319C>4E01 319D>5929 319E>5730 319F>4EBA 3200>28+1100+29
   3201>28+1102+29 3202>28+1103+29 3203>28+1105+29 3204>28+1106+29 3205>28+1107+29 3206>28+1109+29
   3207>28+110B+29 3208>28+110C+29 3209>28+110E+29 320A>28+110F+29 320B>28+1110+29 320C>28+1111+29
   320D>28+1112+29 320E>28+1100+1161+29 320F>28+1102+1161+29 3210>28+1103+1161+29
   3211>28+1105+1161+29 3212>28+1106+1161+29 3213>28+1107+1161+29 3214>28+1109+1161+29
   3215>28+110B+1161+29 3216>28+110C+1161+29 3217>28+110E+1161+29 3218>28+110F+1161+29
   3219>28+1110+1161+29 321A>28+1111+1161+29 321B>28+1112+1161+29 321C>28+110C+116E+29
   3220>28+4E00+29 3221>28+4E8C+29 3222>28+4E09+29 3223>28+56DB+29 3224>28+4E94+29 3225>28+516D+29
   3226>28+4E03+29 3227>28+516B+29 3228>28+4E5D+29 3229>28+5341+29 322A>28+6708+29 322B>28+706B+29
   322C>28+6C34+29 322D>28+6728+29 322E>28+91D1+29 322F>28+571F+29 3230>28+65E5+29 3231>28+682A+29
   3232>28+6709+29 3233>28+793E+29 3234>28+540D+29 3235>28+7279+29 3236>28+8CA1+29 3237>28+795D+29
   3238>28+52B4+29 3239>28+4EE3+29 323A>28+547C+29 323B>28+5B66+29 323C>28+76E3+29 323D>28+4F01+29
   323E>28+8CC7+29 323F>28+5354+29 3240>28+796D+29 3241>28+4F11+29 3242>28+81EA+29 3243>28+81F3+29
   3251>32+31 3252>32+32 3253>32+33 3254>32+34 3255>32+35 3256>32+36 3257>32+37 3258>32+38
   3259>32+39 325A>33+30 325B>33+31 325C>33+32 325D>33+33 325E>33+34 325F>33+35 3260>1100
   3261-3262>1102 3263-3265>1105 3266>1109 3267-3268>110B 3269-326D>110E 326E>1100+1161
   326F>1102+1161 3270>1103+1161 3271>1105+1161 3272>1106+1161 3273>1107+1161 3274>1109+1161
   3275>110B+1161 3276>110C+1161 3277>110E+1161 3278>110F+1161 3279>1110+1161 327A>1111+1161
   327B>1112+1161 3280>4E00 3281>4E8C 3282>4E09 3283>56DB 3284>4E94 3285>516D 3286>4E03 3287>516B
   3288>4E5D 3289>5341 328A>6708 328B>706B 328C>6C34 328D>6728 328E>91D1 328F>571F 3290>65E5
   3291>682A 3292>6709 3293>793E 3294>540D 3295>7279 3296>8CA1 3297>795D 3298>52B4 3299>79D8
   329A>7537 329B>5973 329C>9069 329D>512A 329E>5370 329F>6CE8 32A0>9805 32A1>4F11 32A2>5199
   32A3>6B63 32A4>4E0A 32A5>4E2D 32A6>4E0B 32A7>5DE6 32A8>53F3 32A9>533B 32AA>5B97 32AB>5B66
   32AC>76E3 32AD>4F01 32AE>8CC7 32AF>5354 32B0>591C 32B1>33+36 32B2>33+37 32B3>33+38 32B4>33+39
   32B5>34+30 32B6>34+31 32B7>34+32 32B8>34+33 32B9>34+34 32BA>34+35 32BB>34+36 32BC>34+37
   32BD>34+38 32BE>34+39 32BF>35+30 32C0>31+6708 32C1>32+6708 32C2>33+6708 32C3>34+6708
   32C4>35+6708 32C5>36+6708 32C6>37+6708 32C7>38+6708 32C8>39+6708 32C9>31+30+6708
   32CA>31+31+6708 32CB>31+32+6708 32D0>30A2 32D1>30A4 32D2>30A6 32D3>30A8 32D4-32D5>30AA
   32D6>30AD 32D7>30AF 32D8>30B1 32D9>30B3 32DA>30B5 32DB>30B7 32DC>30B9 32DD>30BB 32DE>30BD
   32DF>30BF 32E0>30C1 32E1>30C4 32E2>30C6 32E3>30C8 32E4-32E9>30CA 32EA>30D2 32EB>30D5 32EC>30D8
   32ED>30DB 32EE-32F2>30DE 32F3>30E4 32F4>30E6 32F5-32FA>30E8 32FB-32FE>30EF
   3300>30A2+30CF+309A+30FC+30C8 3301>30A2+30EB+30D5+30A1 3302>30A2+30F3+30D8+309A+30A2
   3303>30A2+30FC+30EB 3304>30A4+30CB+30F3+30AF+3099 3305>30A4+30F3+30C1 3306>30A6+30A9+30F3
   3307>30A8+30B9+30AF+30FC+30C8+3099 3308>30A8+30FC+30AB+30FC 3309>30AA+30F3+30B9
   330A>30AA+30FC+30E0 330B>30AB+30A4+30EA 330C>30AB+30E9+30C3+30C8 330D>30AB+30ED+30EA+30FC
   330E>30AB+3099+30ED+30F3 330F>30AB+3099+30F3+30DE 3310>30AD+3099+30AB+3099
   3311>30AD+3099+30CB+30FC 3312>30AD+30E5+30EA+30FC 3313>30AD+3099+30EB+30BF+3099+30FC
   3314>30AD+30ED 3315>30AD+30ED+30AF+3099+30E9+30E0 3316>30AD+30ED+30E1+30FC+30C8+30EB
   3317>30AD+30ED+30EF+30C3+30C8 3318>30AF+3099+30E9+30E0 3319>30AF+3099+30E9+30E0+30C8+30F3
   331A>30AF+30EB+30BB+3099+30A4+30ED 331B>30AF+30ED+30FC+30CD 331C>30B1+30FC+30B9
   331D>30B3+30EB+30CA 331E>30B3+30FC+30DB+309A 331F>30B5+30A4+30AF+30EB
   3320>30B5+30F3+30C1+30FC+30E0 3321>30B7+30EA+30F3+30AF+3099 3322>30BB+30F3+30C1
   3323>30BB+30F3+30C8 3324>30BF+3099+30FC+30B9 3325>30C6+3099+30B7 3326>30C8+3099+30EB
   3327>30C8+30F3 3328>30CA+30CE 3329>30CE+30C3+30C8 332A>30CF+30A4+30C4
   332B>30CF+309A+30FC+30BB+30F3+30C8 332C>30CF+309A+30FC+30C4 332D>30CF+3099+30FC+30EC+30EB
   332E>30D2+309A+30A2+30B9+30C8+30EB 332F>30D2+309A+30AF+30EB 3330>30D2+309A+30B3
   3331>30D2+3099+30EB 3332>30D5+30A1+30E9+30C3+30C8+3099 3333>30D5+30A3+30FC+30C8
   3334>30D5+3099+30C3+30B7+30A7+30EB 3335>30D5+30E9+30F3 3336>30D8+30AF+30BF+30FC+30EB
   3337>30D8+309A+30BD 3338>30D8+309A+30CB+30D2 3339>30D8+30EB+30C4 333A>30D8+309A+30F3+30B9
   333B>30D8+309A+30FC+30B7+3099 333C>30D8+3099+30FC+30BF 333D>30DB+309A+30A4+30F3+30C8
   333E>30DB+3099+30EB+30C8 333F>30DB+30F3 3340>30DB+309A+30F3+30C8+3099 3341>30DB+30FC+30EB
   3342>30DB+30FC+30F3 3343>30DE+30A4+30AF+30ED 3344>30DE+30A4+30EB 3345>30DE+30C3+30CF
   3346>30DE+30EB+30AF 3347>30DE+30F3+30B7+30E7+30F3 3348>30DF+30AF+30ED+30F3 3349>30DF+30EA
   334A>30DF+30EA+30CF+3099+30FC+30EB 334B>30E1+30AB+3099 334C>30E1+30AB+3099+30C8+30F3
   334D>30E1+30FC+30C8+30EB 334E>30E4+30FC+30C8+3099 334F>30E4+30FC+30EB 3350>30E6+30A2+30F3
   3351>30EA+30C3+30C8+30EB 3352>30EA+30E9 3353>30EB+30D2+309A+30FC 3354>30EB+30FC+30D5+3099+30EB
   3355>30EC+30E0 3356>30EC+30F3+30C8+30B1+3099+30F3 3357>30EF+30C3+30C8 3358>30+70B9 3359>31+70B9
   335A>32+70B9 335B>33+70B9 335C>34+70B9 335D>35+70B9 335E>36+70B9 335F>37+70B9 3360>38+70B9
   3361>39+70B9 3362>31+30+70B9 3363>31+31+70B9 3364>31+32+70B9 3365>31+33+70B9 3366>31+34+70B9
   3367>31+35+70B9 3368>31+36+70B9 3369>31+37+70B9 336A>31+38+70B9 336B>31+39+70B9 336C>32+30+70B9
   336D>32+31+70B9 336E>32+32+70B9 336F>32+33+70B9 3370>32+34+70B9 3371>68+70+61 3372>64+61
   3373>61+75 3374>62+61+72 3375>6F+76 3376>70+63 337B>5E73+6210 337C>662D+548C 337D>5927+6B63
   337E>660E+6CBB 337F>682A+5F0F+4F1A+793E 3380>70+61 3381>6E+61 3382>3BC+61 3383>6D+61 3384>6B+61
   3385>6B+62 3386>6D+62 3387>67+62 3388>63+61+6C 3389>6B+63+61+6C 338A>70+66 338B>6E+66
   338C>3BC+66 338D>3BC+67 338E>6D+67 338F>6B+67 3390>68+7A 3391>6B+68+7A 3392>6D+68+7A
   3393>67+68+7A 3394>74+68+7A 3395>3BC+6C 3396>6D+6C 3397>64+6C 3398>6B+6C 3399>66+6D 339A>6E+6D
   339B>3BC+6D 339C>6D+6D 339D>63+6D 339E>6B+6D 339F>6D+6D+32 33A0>63+6D+32 33A1>6D+32
   33A2>6B+6D+32 33A3>6D+6D+33 33A4>63+6D+33 33A5>6D+33 33A6>6B+6D+33 33A7>6D+2215+73
   33A8>6D+2215+73+32 33A9>70+61 33AA>6B+70+61 33AB>6D+70+61 33AC>67+70+61 33AD>72+61+64
   33AE>72+61+64+2215+73 33AF>72+61+64+2215+73+32 33B0>70+73 33B1>6E+73 33B2>3BC+73 33B3>6D+73
   33B4>70+76 33B5>6E+76 33B6>3BC+76 33B7>6D+76 33B8>6B+76 33B9>6D+76 33BA>70+77 33BB>6E+77
   33BC>3BC+77 33BD>6D+77 33BE>6B+77 33BF>6D+77 33C0>6B+3C9 33C1>6D+3C9 33C2>61+2E+6D+2E
   33C3>62+71 33C4>63+63 33C5>63+64 33C6>63+2215+6B+67 33C7>63+6F+2E 33C8>64+62 33C9>67+79
   33CA>68+61 33CB>68+70 33CC>69+6E 33CD>6B+6B 33CE>6B+6D 33CF>6B+74 33D0>6C+6D 33D1>6C+6E
   33D2>6C+6F+67 33D3>6C+78 33D4>6D+62 33D5>6D+69+6C 33D6>6D+6F+6C 33D7>70+68 33D8>70+2E+6D+2E
   33D9>70+70+6D 33DA>70+72 33DB>73+72 33DC>73+76 33DD>77+62 33E0>31+65E5 33E1>32+65E5
   33E2>33+65E5 33E3>34+65E5 33E4>35+65E5 33E5>36+65E5 33E6>37+65E5 33E7>38+65E5 33E8>39+65E5
   33E9>31+30+65E5 33EA>31+31+65E5 33EB>31+32+65E5 33EC>31+33+65E5 33ED>31+34+65E5 33EE>31+35+65E5
   33EF>31+36+65E5 33F0>31+37+65E5 33F1>31+38+65E5 33F2>31+39+65E5 33F3>32+30+65E5 33F4>32+31+65E5
   33F5>32+32+65E5 33F6>32+33+65E5 33F7>32+34+65E5 33F8>32+35+65E5 33F9>32+36+65E5 33FA>32+37+65E5
   33FB>32+38+65E5 33FC>32+39+65E5 33FD>33+30+65E5 33FE>33+31+65E5 A640-A66C/2>A641
   A680-A69A/2>A681 A722-A72E/2>A723 A732-A76E/2>A733 A779-A77B/2>A77A A77D>1D79 A77E-A786/2>A77F
   A78B>A78C A78D>265 A790-A792/2>A791 A796-A7A8/2>A797 A7AA>266 A7AB>25C A7AC>261 A7AD>26C
   A7AE>26A A7B0>29E A7B1>287 A7B2>29D A7B3>AB53 A7B4-A7C2/2>A7B5 A7C4>A794 A7C5>282 A7C6>1D8E
   A7C7-A7C9/2>A7C8 A7D0>A7D1 A7D6-A7D8/2>A7D7 A7F5>A7F6"

end RuntimeImage.HostName.Folding
