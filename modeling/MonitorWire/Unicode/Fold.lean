import MonitorWire.Unicode.Table

namespace MonitorWire

namespace Unicode

def foldText : String :=
  "1T.2P 1U.2Q 1V.2R 1W.2S 1X.2T 1Y.2U 1Z.2V 20.2W 21.2X 22.2Y 23.2Z.6JU 24.30 25.31 26.32 27.33 "
  ++ "28.34 29.35 2A.36 2B.37.AN 2C.38 2D.39 2E.3A 2F.3B 2G.3C 2H.3D 2I.3E 51.PO.QK 5C.68 5D.69 5E.6A "
  ++ "5F.6B 5G.6C 5H.6D.6JV 5I.6E 5J.6F 5K.6G 5L.6H 5M.6I 5N.6J 5O.6K 5P.6L 5Q.6M 5R.6N 5S.6O 5T.6P "
  ++ "5U.6Q 5V.6R 5W.6S 5X.6T 5Y.6U 60.6W 61.6X 62.6Y 63.6Z 64.70 65.71 66.72 67.61Q 73.AG 74.75 "
  ++ "76.77 78.79 7A.7B 7C.7D 7E.7F 7G.7H 7I.7J 7K.7L 7M.7N 7O.7P 7Q.7R 7S.7T 7U.7V 7W.7X 7Y.7Z 80.81 "
  ++ "82.83 84.85 86.87 88.89 8A.8B 8C.8D 8E.8F 8I.8J 8K.8L 8M.8N 8P.8Q 8R.8S 8T.8U 8V.8W 8X.8Y 8Z.90 "
  ++ "91.92 93.94 96.97 98.99 9A.9B 9C.9D 9E.9F 9G.9H 9I.9J 9K.9L 9M.9N 9O.9P 9Q.9R 9S.9T 9U.9V 9W.9X "
  ++ "9Y.9Z A0.A1 A2.A3 A4.A5 A6.A7 A8.A9 AA.AB AC.AD AE.AF AH.AI AJ.AK AL.AM AO.G3 AP.GJ AQ.AR AS.AT "
  ++ "AU.GK AV.AW AX.GM AY.GN AZ.B0 B2.D9 B3.GP B4.GR B5.B6 B7.GW B8.GZ B9.DY BA.H5 BB.H4 BC.BD BE.FX "
  ++ "BF.X5O BG.HB BH.HE BI.F4 BJ.HH BK.BL BM.BN BO.BP BQ.HS BR.BS BT.HV BW.BX BY.I0 BZ.C0 C1.I2 "
  ++ "C2.I3 C3.C4 C5.C6 C7.IA C8.C9 CC.CD CF.DZ CK.CL.CM CN.CO.CP CQ.CR.CS CT.CU CV.CW CX.CY CZ.D0 "
  ++ "D1.D2 D3.D4 D5.D6 D7.D8 DA.DB DC.DD DE.DF DG.DH DI.DJ DK.DL DM.DN DO.DP DQ.DR DT.DU.DV DW.DX "
  ++ "E0.E1 E2.E3 E4.E5 E6.E7 E8.E9 EA.EB EC.ED EE.EF EG.EH EI.EJ EK.EL EM.EN EO.EP EQ.ER ES.ET EU.EV "
  ++ "EW.EX EY.EZ F0.F1 F2.F3 F6.F7 F8.F9 FA.FB FC.FD FE.FF FG.FH FI.FJ FK.FL FM.FN FU.8RP FV.FW "
  ++ "FY.8RQ FZ.8SE G0.8SF G1.G2 G4.I1 G5.I4 G6.G7 G8.G9 GA.GB GC.GD GE.GF GG.8RZ GH.8RX GI.8S0 "
  ++ "GS.X4B GX.X4C H0.X57 H1.X3H H2.X4A H6.X4E H7.8RM H8.X4D HD.8RY HP.8RO HU.X51 HZ.X4H IL.X4I "
  ++ "IM.X4G N9.PL.QH.69Q OG.OH OI.OJ OM.ON OR.SD OS.SE OT.SF OV.S3 P2.Q4 P4.Q5 P5.Q6 P6.Q7 P8.R0 "
  ++ "PA.R1 PB.R2 PD.Q9 PE.QA.R4 PF.QB PG.QC PH.QD.S5 PI.QE PJ.QF PK.QG.R5.S4 PM.QI.S0 PN.QJ PP.QL "
  ++ "PQ.QM PR.QN PS.QO.RA PT.QP.S1 PV.QQ.QR PW.QS PX.QT PY.QU.R9 PZ.QV Q0.QW Q1.QX.6JQ Q2.QY Q3.QZ "
  ++ "R3.RB RC.RD RE.RF RG.RH RI.RJ RK.RL RM.RN RO.RP RQ.RR RS.RT RU.RV RW.RX RY.RZ S2.S9 S7.S8 SA.SB "
  ++ "SG.UO SH.UP SI.UQ SJ.UR SK.US SL.UT SM.UU SN.UV SO.UW SP.UX SQ.UY SR.UZ SS.V0 ST.V1 SU.V2 SV.V3 "
  ++ "SW.TS SX.TT SY.TU.5MO SZ.TV T0.TW.5MP T1.TX T2.TY T3.TZ T4.U0 T5.U1 T6.U2 T7.U3 T8.U4 T9.U5 "
  ++ "TA.U6.5MQ TB.U7 TC.U8 TD.U9.5MR TE.UA.5MS.5MT TF.UB TG.UC TH.UD TI.UE TJ.UF TK.UG TL.UH "
  ++ "TM.UI.5MU TN.UJ TO.UK TP.UL TQ.UM TR.UN V4.V5 V6.V7.5MV V8.V9 VA.VB VC.VD VE.VF VG.VH VI.VJ "
  ++ "VK.VL VM.VN VO.VP VQ.VR VS.VT VU.VV VW.VX VY.VZ W0.W1 WA.WB WC.WD WE.WF WG.WH WI.WJ WK.WL WM.WN "
  ++ "WO.WP WQ.WR WS.WT WU.WV WW.WX WY.WZ X0.X1 X2.X3 X4.X5 X6.X7 X8.X9 XA.XB XC.XD XE.XF XG.XH XI.XJ "
  ++ "XK.XL XM.XN XO.XP XQ.XR XS.Y7 XT.XU XV.XW XX.XY XZ.Y0 Y1.Y2 Y3.Y4 Y5.Y6 Y8.Y9 YA.YB YC.YD YE.YF "
  ++ "YG.YH YI.YJ YK.YL YM.YN YO.YP YQ.YR YS.YT YU.YV YW.YX YY.YZ Z0.Z1 Z2.Z3 Z4.Z5 Z6.Z7 Z8.Z9 ZA.ZB "
  ++ "ZC.ZD ZE.ZF ZG.ZH ZI.ZJ ZK.ZL ZM.ZN ZO.ZP ZQ.ZR ZS.ZT ZU.ZV ZW.ZX ZY.ZZ 100.101 102.103 104.105 "
  ++ "106.107 108.109 10A.10B 10C.10D 10E.10F 10G.10H 10I.10J 10K.10L 10M.10N 10O.10P 10Q.10R 10S.10T "
  ++ "10U.10V 10X.129 10Y.12A 10Z.12B 110.12C 111.12D 112.12E 113.12F 114.12G 115.12H 116.12I 117.12J "
  ++ "118.12K 119.12L 11A.12M 11B.12N 11C.12O 11D.12P 11E.12Q 11F.12R 11G.12S 11H.12T 11I.12U 11J.12V "
  ++ "11K.12W 11L.12X 11M.12Y 11N.12Z 11O.130 11P.131 11Q.132 11R.133 11S.134 11T.135 11U.136 11V.137 "
  ++ "11W.138 11X.139 11Y.13A 3A8.8W0 3A9.8W1 3AA.8W2 3AB.8W3 3AC.8W4 3AD.8W5 3AE.8W6 3AF.8W7 3AG.8W8 "
  ++ "3AH.8W9 3AI.8WA 3AJ.8WB 3AK.8WC 3AL.8WD 3AM.8WE 3AN.8WF 3AO.8WG 3AP.8WH 3AQ.8WI 3AR.8WJ 3AS.8WK "
  ++ "3AT.8WL 3AU.8WM 3AV.8WN 3AW.8WO 3AX.8WP 3AY.8WQ 3AZ.8WR 3B0.8WS 3B1.8WT 3B2.8WU 3B3.8WV 3B4.8WW "
  ++ "3B5.8WX 3B6.8WY 3B7.8WZ 3B8.8X0 3B9.8X1 3BB.8X3 3BH.8X9 3BK.5N4 3BL.5N5 3BM.5N6 3BN.5N7 3BO.5N8 "
  ++ "3BP.5N9 3BQ.5NA 3BR.5NB 3BS.5NC 3BT.5ND 3BU.5NE 3BV.5NF 3BW.5NG 3BX.5NH 3BY.5NI 3BZ.5NJ 3C0.5NK "
  ++ "3C1.5NL 3C2.5NM 3C3.5NN 3C4.5NO 3C5.5NP 3C6.5NQ 3C7.5NR 3C8.5NS 3C9.5NT 3CA.5NU 3CB.5NV 3CC.5NW "
  ++ "3CD.5NX 3CE.5NY 3CF.5NZ 3CG.5O0 3CH.5O1 3CI.5O2 3CJ.5O3 3CK.5O4 3CL.5O5 3CM.5O6 3CN.5O7 3CO.5O8 "
  ++ "3CP.5O9 3CQ.5OA 3CT.5OD 3CU.5OE 3CV.5OF 3VK.XV4 3VL.XV5 3VM.XV6 3VN.XV7 3VO.XV8 3VP.XV9 3VQ.XVA "
  ++ "3VR.XVB 3VS.XVC 3VT.XVD 3VU.XVE 3VV.XVF 3VW.XVG 3VX.XVH 3VY.XVI 3VZ.XVJ 3W0.XVK 3W1.XVL 3W2.XVM "
  ++ "3W3.XVN 3W4.XVO 3W5.XVP 3W6.XVQ 3W7.XVR 3W8.XVS 3W9.XVT 3WA.XVU 3WB.XVV 3WC.XVW 3WD.XVX 3WE.XVY "
  ++ "3WF.XVZ 3WG.XW0 3WH.XW1 3WI.XW2 3WJ.XW3 3WK.XW4 3WL.XW5 3WM.XW6 3WN.XW7 3WO.XW8 3WP.XW9 3WQ.XWA "
  ++ "3WR.XWB 3WS.XWC 3WT.XWD 3WU.XWE 3WV.XWF 3WW.XWG 3WX.XWH 3WY.XWI 3WZ.XWJ 3X0.XWK 3X1.XWL 3X2.XWM "
  ++ "3X3.XWN 3X4.XWO 3X5.XWP 3X6.XWQ 3X7.XWR 3X8.XWS 3X9.XWT 3XA.XWU 3XB.XWV 3XC.XWW 3XD.XWX 3XE.XWY "
  ++ "3XF.XWZ 3XG.XX0 3XH.XX1 3XI.XX2 3XJ.XX3 3XK.XX4 3XL.XX5 3XM.XX6 3XN.XX7 3XO.XX8 3XP.XX9 3XQ.XXA "
  ++ "3XR.XXB 3XS.3Y0 3XT.3Y1 3XU.3Y2 3XV.3Y3 3XW.3Y4 3XX.3Y5 5MW.WUI.WUJ 5MX.5MY 5TL.X31 5TP.8RN "
  ++ "5U6.X52 5XC.5XD 5XE.5XF 5XG.5XH 5XI.5XJ 5XK.5XL 5XM.5XN 5XO.5XP 5XQ.5XR 5XS.5XT 5XU.5XV 5XW.5XX "
  ++ "5XY.5XZ 5Y0.5Y1 5Y2.5Y3 5Y4.5Y5 5Y6.5Y7 5Y8.5Y9 5YA.5YB 5YC.5YD 5YE.5YF 5YG.5YH 5YI.5YJ 5YK.5YL "
  ++ "5YM.5YN 5YO.5YP 5YQ.5YR 5YS.5YT 5YU.5YV 5YW.5YX 5YY.5YZ 5Z0.5Z1 5Z2.5Z3 5Z4.5Z5 5Z6.5Z7 5Z8.5Z9 "
  ++ "5ZA.5ZB 5ZC.5ZD 5ZE.5ZF 5ZG.5ZH 5ZI.5ZJ 5ZK.5ZL 5ZM.5ZN 5ZO.5ZP 5ZQ.5ZR 5ZS.5ZT 5ZU.5ZV 5ZW.5ZX "
  ++ "5ZY.5ZZ 600.601.61N 602.603 604.605 606.607 608.609 60A.60B 60C.60D 60E.60F 60G.60H 60I.60J "
  ++ "60K.60L 60M.60N 60O.60P 60Q.60R 60S.60T 60U.60V 60W.60X 60Y.60Z 610.611 612.613 614.615 616.617 "
  ++ "618.619 61A.61B 61C.61D 61E.61F 61G.61H 61S.61T 61U.61V 61W.61X 61Y.61Z 620.621 622.623 624.625 "
  ++ "626.627 628.629 62A.62B 62C.62D 62E.62F 62G.62H 62I.62J 62K.62L 62M.62N 62O.62P 62Q.62R 62S.62T "
  ++ "62U.62V 62W.62X 62Y.62Z 630.631 632.633 634.635 636.637 638.639 63A.63B 63C.63D 63E.63F 63G.63H "
  ++ "63I.63J 63K.63L 63M.63N 63O.63P 63Q.63R 63S.63T 63U.63V 63W.63X 63Y.63Z 640.641 642.643 644.645 "
  ++ "646.647 648.649 64A.64B 64C.64D 64E.64F 64G.64O 64H.64P 64I.64Q 64J.64R 64K.64S 64L.64T 64M.64U "
  ++ "64N.64V 64W.654 64X.655 64Y.656 64Z.657 650.658 651.659 65C.65K 65D.65L 65E.65M 65F.65N 65G.65O "
  ++ "65H.65P 65I.65Q 65J.65R 65S.660 65T.661 65U.662 65V.663 65W.664 65X.665 65Y.666 65Z.667 668.66G "
  ++ "669.66H 66A.66I 66B.66J 66C.66K 66D.66L 66P.66X 66R.66Z 66T.671 66V.673 674.67C 675.67D 676.67E "
  ++ "677.67F 678.67G 679.67H 67A.67I 67B.67J 67K.69M 67L.69N 67M.6A0 67N.6A1 67O.6A2 67P.6A3 67Q.6AI "
  ++ "67R.6AJ 67S.6BC 67T.6BD 67U.6AY 67V.6AZ 67W.6BE 67X.6BF 680.688 681.689 682.68A 683.68B 684.68C "
  ++ "685.68D 686.68E 687.68F 68G.68O 68H.68P 68I.68Q 68J.68R 68K.68S 68L.68T 68M.68U 68N.68V 68W.694 "
  ++ "68X.695 68Y.696 68Z.697 690.698 691.699 692.69A 693.69B 69C.69K 69D.69L 69F.69O 69V.6A4 6A8.6AG "
  ++ "6A9.6AH 6AO.6AW 6AP.6AX 6AT.6B0 6B7.6BG 6K2.6KU 6LC.6LS 6LD.6LT 6LE.6LU 6LF.6LV 6LG.6LW 6LH.6LX "
  ++ "6LI.6LY 6LJ.6LZ 6LK.6M0 6LL.6M1 6LM.6M2 6LN.6M3 6LO.6M4 6LP.6M5 6LQ.6M6 6LR.6M7 6MB.6MC 792.79S "
  ++ "793.79T 794.79U 795.79V 796.79W 797.79X 798.79Y 799.79Z 79A.7A0 79B.7A1 79C.7A2 79D.7A3 79E.7A4 "
  ++ "79F.7A5 79G.7A6 79H.7A7 79I.7A8 79J.7A9 79K.7AA 79L.7AB 79M.7AC 79N.7AD 79O.7AE 79P.7AF 79Q.7AG "
  ++ "79R.7AH 8OW.8Q8 8OX.8Q9 8OY.8QA 8OZ.8QB 8P0.8QC 8P1.8QD 8P2.8QE 8P3.8QF 8P4.8QG 8P5.8QH 8P6.8QI "
  ++ "8P7.8QJ 8P8.8QK 8P9.8QL 8PA.8QM 8PB.8QN 8PC.8QO 8PD.8QP 8PE.8QQ 8PF.8QR 8PG.8QS 8PH.8QT 8PI.8QU "
  ++ "8PJ.8QV 8PK.8QW 8PL.8QX 8PM.8QY 8PN.8QZ 8PO.8R0 8PP.8R1 8PQ.8R2 8PR.8R3 8PS.8R4 8PT.8R5 8PU.8R6 "
  ++ "8PV.8R7 8PW.8R8 8PX.8R9 8PY.8RA 8PZ.8RB 8Q0.8RC 8Q1.8RD 8Q2.8RE 8Q3.8RF 8Q4.8RG 8Q5.8RH 8Q6.8RI "
  ++ "8Q7.8RJ 8RK.8RL 8RR.8RS 8RT.8RU 8RV.8RW 8S2.8S3 8S5.8S6 8SG.8SH 8SI.8SJ 8SK.8SL 8SM.8SN 8SO.8SP "
  ++ "8SQ.8SR 8SS.8ST 8SU.8SV 8SW.8SX 8SY.8SZ 8T0.8T1 8T2.8T3 8T4.8T5 8T6.8T7 8T8.8T9 8TA.8TB 8TC.8TD "
  ++ "8TE.8TF 8TG.8TH 8TI.8TJ 8TK.8TL 8TM.8TN 8TO.8TP 8TQ.8TR 8TS.8TT 8TU.8TV 8TW.8TX 8TY.8TZ 8U0.8U1 "
  ++ "8U2.8U3 8U4.8U5 8U6.8U7 8U8.8U9 8UA.8UB 8UC.8UD 8UE.8UF 8UG.8UH 8UI.8UJ 8UK.8UL 8UM.8UN 8UO.8UP "
  ++ "8UQ.8UR 8US.8UT 8UU.8UV 8UW.8UX 8UY.8UZ 8V0.8V1 8V2.8V3 8V4.8V5 8V6.8V7 8VF.8VG 8VH.8VI 8VM.8VN "
  ++ "WU8.WU9 WUA.WUB WUC.WUD WUE.WUF WUG.WUH WUK.WUL WUM.WUN WUO.WUP WUQ.WUR WUS.WUT WUU.WUV WUW.WUX "
  ++ "WUY.WUZ WV0.WV1 WV2.WV3 WV4.WV5 WV6.WV7 WV8.WV9 WVA.WVB WVC.WVD WVE.WVF WVG.WVH WW0.WW1 WW2.WW3 "
  ++ "WW4.WW5 WW6.WW7 WW8.WW9 WWA.WWB WWC.WWD WWE.WWF WWG.WWH WWI.WWJ WWK.WWL WWM.WWN WWO.WWP WWQ.WWR "
  ++ "X0I.X0J X0K.X0L X0M.X0N X0O.X0P X0Q.X0R X0S.X0T X0U.X0V X0Y.X0Z X10.X11 X12.X13 X14.X15 X16.X17 "
  ++ "X18.X19 X1A.X1B X1C.X1D X1E.X1F X1G.X1H X1I.X1J X1K.X1L X1M.X1N X1O.X1P X1Q.X1R X1S.X1T X1U.X1V "
  ++ "X1W.X1X X1Y.X1Z X20.X21 X22.X23 X24.X25 X26.X27 X28.X29 X2A.X2B X2C.X2D X2E.X2F X2G.X2H X2I.X2J "
  ++ "X2K.X2L X2M.X2N X2X.X2Y X2Z.X30 X32.X33 X34.X35 X36.X37 X38.X39 X3A.X3B X3F.X3G X3K.X3L X3M.X3N "
  ++ "X3O.X50 X3Q.X3R X3S.X3T X3U.X3V X3W.X3X X3Y.X3Z X40.X41 X42.X43 X44.X45 X46.X47 X48.X49 X4J.XUB "
  ++ "X4K.X4L X4M.X4N X4O.X4P X4Q.X4R X4S.X4T X4U.X4V X4W.X4X X4Y.X4Z X53.X54 X55.X56 X58.X59 X5C.X5D "
  ++ "X5I.X5J X5K.X5L X5M.X5N X6D.X6E 1EE9.1EF5 1EEA.1EF6 1EEB.1EF7 1EEC.1EF8 1EED.1EF9 1EEE.1EFA "
  ++ "1EEF.1EFB 1EEG.1EFC 1EEH.1EFD 1EEI.1EFE 1EEJ.1EFF 1EEK.1EFG 1EEL.1EFH 1EEM.1EFI 1EEN.1EFJ "
  ++ "1EEO.1EFK 1EEP.1EFL 1EEQ.1EFM 1EER.1EFN 1EES.1EFO 1EET.1EFP 1EEU.1EFQ 1EEV.1EFR 1EEW.1EFS "
  ++ "1EEX.1EFT 1EEY.1EFU 1FCW.1FE0 1FCX.1FE1 1FCY.1FE2 1FCZ.1FE3 1FD0.1FE4 1FD1.1FE5 1FD2.1FE6 "
  ++ "1FD3.1FE7 1FD4.1FE8 1FD5.1FE9 1FD6.1FEA 1FD7.1FEB 1FD8.1FEC 1FD9.1FED 1FDA.1FEE 1FDB.1FEF "
  ++ "1FDC.1FEG 1FDD.1FEH 1FDE.1FEI 1FDF.1FEJ 1FDG.1FEK 1FDH.1FEL 1FDI.1FEM 1FDJ.1FEN 1FDK.1FEO "
  ++ "1FDL.1FEP 1FDM.1FEQ 1FDN.1FER 1FDO.1FES 1FDP.1FET 1FDQ.1FEU 1FDR.1FEV 1FDS.1FEW 1FDT.1FEX "
  ++ "1FDU.1FEY 1FDV.1FEZ 1FDW.1FF0 1FDX.1FF1 1FDY.1FF2 1FDZ.1FF3 1FHS.1FIW 1FHT.1FIX 1FHU.1FIY "
  ++ "1FHV.1FIZ 1FHW.1FJ0 1FHX.1FJ1 1FHY.1FJ2 1FHZ.1FJ3 1FI0.1FJ4 1FI1.1FJ5 1FI2.1FJ6 1FI3.1FJ7 "
  ++ "1FI4.1FJ8 1FI5.1FJ9 1FI6.1FJA 1FI7.1FJB 1FI8.1FJC 1FI9.1FJD 1FIA.1FJE 1FIB.1FJF 1FIC.1FJG "
  ++ "1FID.1FJH 1FIE.1FJI 1FIF.1FJJ 1FIG.1FJK 1FIH.1FJL 1FII.1FJM 1FIJ.1FJN 1FIK.1FJO 1FIL.1FJP "
  ++ "1FIM.1FJQ 1FIN.1FJR 1FIO.1FJS 1FIP.1FJT 1FIQ.1FJU 1FIR.1FJV 1FN4.1FO7 1FN5.1FO8 1FN6.1FO9 "
  ++ "1FN7.1FOA 1FN8.1FOB 1FN9.1FOC 1FNA.1FOD 1FNB.1FOE 1FNC.1FOF 1FND.1FOG 1FNE.1FOH 1FNG.1FOJ "
  ++ "1FNH.1FOK 1FNI.1FOL 1FNJ.1FOM 1FNK.1FON 1FNL.1FOO 1FNM.1FOP 1FNN.1FOQ 1FNO.1FOR 1FNP.1FOS "
  ++ "1FNQ.1FOT 1FNR.1FOU 1FNS.1FOV 1FNT.1FOW 1FNU.1FOX 1FNW.1FOZ 1FNX.1FP0 1FNY.1FP1 1FNZ.1FP2 "
  ++ "1FO0.1FP3 1FO1.1FP4 1FO2.1FP5 1FO4.1FP7 1FO5.1FP8 1H1C.1H34 1H1D.1H35 1H1E.1H36 1H1F.1H37 "
  ++ "1H1G.1H38 1H1H.1H39 1H1I.1H3A 1H1J.1H3B 1H1K.1H3C 1H1L.1H3D 1H1M.1H3E 1H1N.1H3F 1H1O.1H3G "
  ++ "1H1P.1H3H 1H1Q.1H3I 1H1R.1H3J 1H1S.1H3K 1H1T.1H3L 1H1U.1H3M 1H1V.1H3N 1H1W.1H3O 1H1X.1H3P "
  ++ "1H1Y.1H3Q 1H1Z.1H3R 1H20.1H3S 1H21.1H3T 1H22.1H3U 1H23.1H3V 1H24.1H3W 1H25.1H3X 1H26.1H3Y "
  ++ "1H27.1H3Z 1H28.1H40 1H29.1H41 1H2A.1H42 1H2B.1H43 1H2C.1H44 1H2D.1H45 1H2E.1H46 1H2F.1H47 "
  ++ "1H2G.1H48 1H2H.1H49 1H2I.1H4A 1H2J.1H4B 1H2K.1H4C 1H2L.1H4D 1H2M.1H4E 1H2N.1H4F 1H2O.1H4G "
  ++ "1H2P.1H4H 1H2Q.1H4I 1H74.1H80 1H75.1H81 1H76.1H82 1H77.1H83 1H78.1H84 1H79.1H85 1H7A.1H86 "
  ++ "1H7B.1H87 1H7C.1H88 1H7D.1H89 1H7E.1H8A 1H7F.1H8B 1H7G.1H8C 1H7H.1H8D 1H7I.1H8E 1H7J.1H8F "
  ++ "1H7K.1H8G 1H7L.1H8H 1H7M.1H8I 1H7N.1H8J 1H7O.1H8K 1H7P.1H8L 1JFK.1JGG 1JFL.1JGH 1JFM.1JGI "
  ++ "1JFN.1JGJ 1JFO.1JGK 1JFP.1JGL 1JFQ.1JGM 1JFR.1JGN 1JFS.1JGO 1JFT.1JGP 1JFU.1JGQ 1JFV.1JGR "
  ++ "1JFW.1JGS 1JFX.1JGT 1JFY.1JGU 1JFZ.1JGV 1JG0.1JGW 1JG1.1JGX 1JG2.1JGY 1JG3.1JGZ 1JG4.1JH0 "
  ++ "1JG5.1JH1 1JG6.1JH2 1JG7.1JH3 1JG8.1JH4 1JG9.1JH5 1JGA.1JH6 1JGB.1JH7 1JGC.1JH8 1JGD.1JH9 "
  ++ "1JGE.1JHA 1JGF.1JHB 20CG.20DC 20CH.20DD 20CI.20DE 20CJ.20DF 20CK.20DG 20CL.20DH 20CM.20DI "
  ++ "20CN.20DJ 20CO.20DK 20CP.20DL 20CQ.20DM 20CR.20DN 20CS.20DO 20CT.20DP 20CU.20DQ 20CV.20DR "
  ++ "20CW.20DS 20CX.20DT 20CY.20DU 20CZ.20DV 20D0.20DW 20D1.20DX 20D2.20DY 20D3.20DZ 20D4.20E0 "
  ++ "20D5.20E1 20D6.20E2 20D7.20E3 20D8.20E4 20D9.20E5 20DA.20E6 20DB.20E7 2OLC.2OMA 2OLD.2OMB "
  ++ "2OLE.2OMC 2OLF.2OMD 2OLG.2OME 2OLH.2OMF 2OLI.2OMG 2OLJ.2OMH 2OLK.2OMI 2OLL.2OMJ 2OLM.2OMK "
  ++ "2OLN.2OML 2OLO.2OMM 2OLP.2OMN 2OLQ.2OMO 2OLR.2OMP 2OLS.2OMQ 2OLT.2OMR 2OLU.2OMS 2OLV.2OMT "
  ++ "2OLW.2OMU 2OLX.2OMV 2OLY.2OMW 2OLZ.2OMX 2OM0.2OMY 2OM1.2OMZ 2OM2.2ON0 2OM3.2ON1 2OM4.2ON2 "
  ++ "2OM5.2ON3 2OM6.2ON4 2OM7.2ON5 2OM8.2ON6 2OM9.2ON7"

def foldClasses : Array (List Nat) :=
  ((foldText.splitOn " ").filter (!·.isEmpty)).toArray.map fun w =>
    (w.splitOn ".").map number36

def foldIndex : Array (Nat × Nat) :=
  let pairs := foldClasses.toList.zipIdx.flatMap fun (cs, i) => cs.map (·, i)
  (pairs.mergeSort (fun a b => a.1 ≤ b.1)).toArray

def foldPartners (lo hi : Nat) : List Nat :=
  let first := lowerBound foldIndex lo
  let inRange := (foldIndex.toList.drop first).takeWhile (·.1 ≤ hi)
  inRange.flatMap fun (_, i) => foldClasses.getD i []

def hasPartner (lo hi : Nat) : Bool :=
  match foldIndex[lowerBound foldIndex lo]? with
  | some (c, _) => c ≤ hi
  | none => false

end Unicode

end MonitorWire
